/-!
# Decimal numbers

A sign, a coefficient and a power of ten. The coefficient and the exponent are kept apart, so
that `1.50` and `1.5` are different decimals of the same size and each is written with the
digits it was given.
-/

namespace ClientGen.Number

/-- The number `± coefficient · 10 ^ exponent`. -/
structure Decimal where
  negative : Bool
  coefficient : Nat
  exponent : Int
deriving Repr, DecidableEq

/-! ## Digits -/

/-- The value of a decimal digit. -/
def digitValue (c : Char) : Nat :=
  c.toNat - '0'.toNat

/-- The number that a row of digits denotes. -/
def valueOfDigits (ds : List Char) : Nat :=
  ds.foldl (fun n d => 10 * n + digitValue d) 0

/-- The decimal digits of a number, without leading zeros. -/
def digitsOf (n : Nat) : List Char :=
  Nat.toDigits 10 n

/-- The integer as text. -/
def intText (n : Int) : String :=
  toString n

/-- Digits in which single underscores may separate two digits. -/
def readDigits? (cs : List Char) : Option (List Char) :=
  go true cs
where
  /-- `fresh` says that a digit has to come next. -/
  go : Bool → List Char → Option (List Char)
    | fresh, [] => if fresh then none else some []
    | fresh, '_' :: cs => if fresh then none else go true cs
    | _, c :: cs => if c.isDigit then (go false cs).map (c :: ·) else none

/-- An integer with an optional sign. -/
def readInt? (cs : List Char) : Option Int :=
  match cs with
  | '-' :: ds => (readDigits? ds).map fun ds => -Int.ofNat (valueOfDigits ds)
  | '+' :: ds => (readDigits? ds).map fun ds => Int.ofNat (valueOfDigits ds)
  | ds => (readDigits? ds).map fun ds => Int.ofNat (valueOfDigits ds)

/-! ## Reading -/

namespace Decimal

/-- Splits at the first character of a class. -/
private def splitAt (p : Char → Bool) (cs : List Char) : List Char × Option (List Char) :=
  (cs.takeWhile (!p ·), match cs.dropWhile (!p ·) with
    | [] => none
    | _ :: rest => some rest)

/-- A possibly empty row of digits. -/
private def readPart? (cs : List Char) : Option (List Char) :=
  if cs.isEmpty then some [] else readDigits? cs

private def ofUnsigned? (negative : Bool) (cs : List Char) : Option Decimal := do
  let (mantissa, power) := splitAt (fun c => c == 'e' || c == 'E') cs
  let exponent ← match power with
    | none => some 0
    | some p => readInt? p
  let (whole, fraction) := splitAt (· == '.') mantissa
  let whole ← readPart? whole
  let fraction ← readPart? (fraction.getD [])
  if whole.isEmpty && fraction.isEmpty then none
  else some ⟨negative, valueOfDigits (whole ++ fraction), exponent - fraction.length⟩

/-- A numeral: an optional sign, digits with at most one point among them, and an optional
power of ten. -/
def ofChars? : List Char → Option Decimal
  | '-' :: cs => ofUnsigned? true cs
  | '+' :: cs => ofUnsigned? false cs
  | cs => ofUnsigned? false cs

/-! ## Writing -/

/-- A whole number with its sign, also when it is positive. -/
private def signed (n : Int) : List Char :=
  if n < 0 then '-' :: digitsOf n.natAbs else '+' :: digitsOf n.natAbs

/-- Puts the point after `place` digits, with zeros where there are no digits. -/
private def pointed (ds : List Char) (place : Int) : List Char :=
  if place ≤ 0 then '0' :: '.' :: List.replicate place.natAbs '0' ++ ds
  else if ds.length ≤ place.toNat then ds ++ List.replicate (place.toNat - ds.length) '0'
  else ds.take place.toNat ++ '.' :: ds.drop place.toNat

/-- The decimal with exactly the digits of its coefficient: without an exponent if the power
of ten is not positive and at most six zeros would follow the point, and else with one digit
before the point and an exponent. -/
def text (d : Decimal) : String :=
  let ds := digitsOf d.coefficient
  let left : Int := d.exponent + ds.length
  let place : Int := if d.exponent ≤ 0 && left > -6 then left else 1
  let power := if left = place then [] else 'E' :: signed (left - place)
  String.ofList ((if d.negative then ['-'] else []) ++ pointed ds place ++ power)

end Decimal

end ClientGen.Number
