import ClientGen.Number.Decimal

/-!
# Binary floating point

The 64-bit binary numbers, as exact integers: a finite one is `± significand · 2 ^ exponent`.
`Binary64.ofDecimal` rounds a decimal to the nearest of them, and of two equally near ones it
takes the one with the even significand.
-/

namespace ClientGen.Number

/-- A 64-bit binary number. A finite one has a significand below `2 ^ 53` and an exponent from
-1074 to 971, and its significand is at least `2 ^ 52` unless the exponent is -1074. -/
inductive Binary64 where
  | finite (negative : Bool) (significand : Nat) (exponent : Int)
  | infinite (negative : Bool)
  | nan
deriving Repr, DecidableEq

/-- `num / den` rounded to the nearest integer, a half to the even neighbour. -/
def roundEven (num den : Nat) : Nat :=
  let q := num / den
  let r := 2 * (num % den)
  if r < den then q else if den < r then q + 1 else q + q % 2

namespace Binary64

/-- The least exponent. -/
def minExponent : Int := -1074

/-- The greatest exponent. -/
def maxExponent : Int := 971

/-- `2 ^ e` as a fraction. -/
def powerOfTwo (e : Int) : Nat × Nat :=
  if 0 ≤ e then (Nat.pow 2 e.toNat, 1) else (1, Nat.pow 2 (-e).toNat)

/-- The `e` with `2 ^ e ≤ num / den < 2 ^ (e + 1)`. -/
private def floorLog2 (num den : Nat) : Int :=
  let guess : Int := (num.log2 : Int) - den.log2
  let (p, q) := powerOfTwo guess
  if den * p ≤ num * q then guess else guess - 1

/-- The number nearest to `± num / den`. -/
def ofRatio (negative : Bool) (num den : Nat) : Binary64 :=
  if num = 0 then .finite negative 0 minExponent
  else
    let exponent := max minExponent (floorLog2 num den - 52)
    let (p, q) := powerOfTwo exponent
    let rounded := roundEven (num * q) (den * p)
    let (significand, exponent) :=
      if rounded = Nat.pow 2 53 then (Nat.pow 2 52, exponent + 1) else (rounded, exponent)
    if maxExponent < exponent then .infinite negative
    else .finite negative significand exponent

/-- The number nearest to a decimal. Beyond `10 ^ 310` that is the infinity and below
`10 ^ -330` it is zero, so no larger power of ten is ever formed. -/
def ofDecimal (d : Decimal) : Binary64 :=
  let places : Int := d.exponent + (digitsOf d.coefficient).length
  if d.coefficient = 0 then .finite d.negative 0 minExponent
  else if 310 < places then .infinite d.negative
  else if places < -330 then .finite d.negative 0 minExponent
  else if 0 ≤ d.exponent then ofRatio d.negative (d.coefficient * Nat.pow 10 d.exponent.toNat) 1
  else ofRatio d.negative d.coefficient (Nat.pow 10 (-d.exponent).toNat)

/-- Reads a numeral, or one of the words for the infinities and for "not a number", in any
case. -/
def ofChars? (cs : List Char) : Option Binary64 :=
  let (negative, rest) := match cs with
    | '-' :: r => (true, r)
    | '+' :: r => (false, r)
    | r => (false, r)
  let word := String.ofList (rest.map Char.toLower)
  if word = "inf" || word = "infinity" then some (.infinite negative)
  else if word = "nan" then some .nan
  else (Decimal.ofChars? cs).map ofDecimal

end Binary64

end ClientGen.Number
