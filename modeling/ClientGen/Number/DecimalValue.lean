import ClientGen.Number.Decimal
import ClientGen.Text.Blank

/-!
# Decimal values

A decimal number, an infinity or "not a number", with their texts. What is not a number may
carry a number all the same, to tell why, and may ask for a signal.
-/

namespace ClientGen.Number

/-- A value of decimal arithmetic. -/
inductive DecimalValue where
  | finite (number : Decimal)
  | infinite (negative : Bool)
  | nan (negative signaling : Bool) (payload : Nat)
deriving Repr, DecidableEq

namespace DecimalValue

/-- The text of a value. -/
def text : DecimalValue → String
  | .finite d => d.text
  | .infinite negative => if negative then "-Infinity" else "Infinity"
  | .nan negative signaling payload =>
    (if negative then "-" else "") ++ (if signaling then "s" else "") ++ "NaN" ++
      (if payload = 0 then "" else String.ofList (digitsOf payload))

/-- What follows a sign, when it is no number. -/
private def special? (negative : Bool) (word : List Char) : Option DecimalValue :=
  let digitsOnly (cs : List Char) : Bool := cs.all Char.isDigit
  match word.map Char.toLower with
  | ['i', 'n', 'f'] => some (.infinite negative)
  | ['i', 'n', 'f', 'i', 'n', 'i', 't', 'y'] => some (.infinite negative)
  | 'n' :: 'a' :: 'n' :: ds =>
    if digitsOnly ds then some (.nan negative false (valueOfDigits ds)) else none
  | 's' :: 'n' :: 'a' :: 'n' :: ds =>
    if digitsOnly ds then some (.nan negative true (valueOfDigits ds)) else none
  | _ => none

/-- Reads a value; blanks around it and underscores in it do not count. -/
def ofText? (s : String) : Option DecimalValue :=
  let cs := (Text.strippedChars s.toList).filter (· != '_')
  let (negative, rest) := match cs with
    | '-' :: r => (true, r)
    | '+' :: r => (false, r)
    | r => (false, r)
  match special? negative rest with
  | some v => some v
  | none => (Decimal.ofChars? cs).map .finite

end DecimalValue

end ClientGen.Number
