import ClientGen.Number.Binary64

/-!
# The shortest decimal of a binary number

Of all decimals that round to a given binary number, the text takes one with the fewest
digits, and of those the nearest. The search tries one digit, two digits and so on; on each
grid only the two neighbours of the number have to be looked at, since an interval that holds
a point of the grid holds one of them.
-/

namespace ClientGen.Number

namespace Binary64

/-! ## The interval that rounds to a number -/

/-- A positive number with the ends of the interval that rounds to it. All three are
numerators over one denominator. -/
private structure Rounding where
  low : Nat
  value : Nat
  high : Nat
  denominator : Nat
  /-- The ends belong to the interval. -/
  closed : Bool

/-- The interval around `significand · 2 ^ exponent`. Below a power of two the neighbour is
only half as far away. -/
private def rounding (significand : Nat) (exponent : Int) : Rounding :=
  let (p, q) := powerOfTwo (exponent - 2)
  let below := if significand = Nat.pow 2 52 && minExponent < exponent then 1 else 2
  { low := (4 * significand - below) * p
    value := 4 * significand * p
    high := (4 * significand + 2) * p
    denominator := q
    closed := significand % 2 = 0 }

/-- `10 ^ e` as a fraction. -/
private def powerOfTen (e : Int) : Nat × Nat :=
  if 0 ≤ e then (Nat.pow 10 e.toNat, 1) else (1, Nat.pow 10 (-e).toNat)

/-- `d · 10 ^ e` rounds to the number. -/
private def Rounding.admits (r : Rounding) (d : Nat) (e : Int) : Bool :=
  let (p, q) := powerOfTen e
  let point := d * p * r.denominator
  if r.closed then r.low * q ≤ point && point ≤ r.high * q
  else r.low * q < point && point < r.high * q

/-- The least `e` with the number below `10 ^ e`, from a guess that is at most two too low. -/
private def Rounding.places (r : Rounding) (guess : Int) : Int :=
  let below (e : Int) : Bool :=
    let (p, q) := powerOfTen e
    r.value * q < p * r.denominator
  if below guess then guess else if below (guess + 1) then guess + 1 else guess + 2

/-- The point of the grid `10 ^ e` that is nearest to the number among those that round to it,
if there is one. A tie goes to the even point. -/
private def Rounding.onGrid? (r : Rounding) (e : Int) : Option Nat :=
  let (p, q) := powerOfTen e
  let num := r.value * q
  let den := r.denominator * p
  let low := num / den
  match r.admits low e, r.admits (low + 1) e with
  | true, true => some (roundEven num den)
  | true, false => some low
  | false, true => some (low + 1)
  | false, false => none

/-- The first grid with a hit, from the coarsest to seventeen digits. -/
private def Rounding.search (r : Rounding) (places : Int) : Nat → Nat × Int
  | 0 => (r.onGrid? (places - 17) |>.getD 0, places - 17)
  | more + 1 =>
    let e := places - (17 - more : Nat)
    match r.onGrid? e with
    | some d => (d, e)
    | none => r.search places more

/-- Digits and power of ten of the shortest decimal of `significand · 2 ^ exponent`. -/
def shortest (significand : Nat) (exponent : Int) : Nat × Int :=
  let r := rounding significand exponent
  let guess : Int := (((significand.log2 : Int) + exponent) * 30103) / 100000
  r.search (r.places guess) 17

/-! ## The text -/

/-- Two digits at least, and a sign. -/
private def exponentText (e : Int) : List Char :=
  let ds := digitsOf e.natAbs
  (if e < 0 then '-' else '+') :: (if ds.length < 2 then '0' :: ds else ds)

private def withoutTrailingZeros (ds : List Char) : List Char :=
  (ds.reverse.dropWhile (· == '0')).reverse

/-- Positional from `10 ^ -4` up to below `10 ^ 16`, with at least one digit on each side of
the point, and else with an exponent and one digit before the point. -/
private def positiveText (significand : Nat) (exponent : Int) : List Char :=
  let (d, e) := shortest significand exponent
  let all := digitsOf d
  let ds := withoutTrailingZeros all
  let point : Int := all.length + e
  if point ≤ -4 || 16 < point then
    let fraction := match ds.drop 1 with
      | [] => []
      | rest => '.' :: rest
    ds.take 1 ++ fraction ++ 'e' :: exponentText (point - 1)
  else if point ≤ 0 then '0' :: '.' :: List.replicate point.natAbs '0' ++ ds
  else if ds.length ≤ point.toNat then
    ds ++ List.replicate (point.toNat - ds.length) '0' ++ ['.', '0']
  else ds.take point.toNat ++ '.' :: ds.drop point.toNat

/-- The shortest text that reads back as the number. -/
def text : Binary64 → String
  | .finite negative significand exponent =>
    String.ofList ((if negative then ['-'] else []) ++
      if significand = 0 then ['0', '.', '0'] else positiveText significand exponent)
  | .infinite negative => if negative then "-inf" else "inf"
  | .nan => "nan"

end Binary64

end ClientGen.Number
