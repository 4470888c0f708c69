import ClientGen.Document.Token
import ClientGen.Number.DecimalValue
import ClientGen.Number.Shortest
import ClientGen.Text.Quoted

/-!
# Argument values

The values that a client may pass as arguments. `unset` is an argument that is not given at
all, which is not the same as null. The keys of a mapping are values themselves; two keys that
are the same number are one key.
-/

namespace ClientGen.Request

open ClientGen.Number

/-! ## Dates and times -/

/-- A day. -/
structure Date where
  year : Nat
  month : Nat
  day : Nat
deriving Repr, DecidableEq

/-- A time of day, perhaps with its distance from universal time in seconds. -/
structure Time where
  hour : Nat
  minute : Nat
  second : Nat := 0
  microsecond : Nat := 0
  offset? : Option Int := none
deriving Repr, DecidableEq

/-- A number with leading zeros up to a width. -/
def padded (width n : Nat) : String :=
  let ds := digitsOf n
  String.ofList (List.replicate (width - ds.length) '0' ++ ds)

/-- The day as `YYYY-MM-DD`. -/
def Date.text (d : Date) : String :=
  padded 4 d.year ++ "-" ++ padded 2 d.month ++ "-" ++ padded 2 d.day

/-- A distance from universal time: hours and minutes, and seconds if there are any. -/
def offsetText (offset : Int) : String :=
  let n := offset.natAbs
  (if offset < 0 then "-" else "+") ++ padded 2 (n / 3600) ++ ":" ++ padded 2 (n / 60 % 60) ++
    (if n % 60 = 0 then "" else ":" ++ padded 2 (n % 60))

/-- The time as `HH:MM:SS`, with microseconds if there are any. -/
def Time.text (t : Time) : String :=
  padded 2 t.hour ++ ":" ++ padded 2 t.minute ++ ":" ++ padded 2 t.second ++
    (if t.microsecond = 0 then "" else "." ++ padded 6 t.microsecond) ++
    (t.offset?.map offsetText).getD ""

/-! ## Universally unique identifiers -/

/-- An identifier of 128 bits, in groups of 8, 4, 4, 4 and 12 hexadecimal digits. -/
def uuidText (n : Nat) : String :=
  let ds := Text.hexDigits 32 n
  let group (start length : Nat) : String := String.ofList ((ds.drop start).take length)
  "-".intercalate [group 0 8, group 8 4, group 12 4, group 16 4, group 20 12]

/-- The text of an identifier without the words, braces and hyphens that may accompany its
digits. -/
def bareUuid (s : String) : List Char :=
  let isBrace (c : Char) : Bool := c == '\x7b' || c == '\x7d'
  let cs := ((s.replace "urn:" "").replace "uuid:" "").toList
  ((cs.dropWhile isBrace).reverse.dropWhile isBrace).reverse.filter (· != '-')

/-- The identifier that a text denotes, if it has 32 hexadecimal digits. -/
def uuidOfText? (s : String) : Option Nat :=
  let ds := bareUuid s
  if ds.length = 32 then Document.Token.hexNumber? ds else none

/-! ## Values -/

/-- The kinds of sequences; all are written alike. -/
inductive SequenceKind where
  | list
  | tuple
  | set
  | frozenSet
deriving Repr, DecidableEq

/-- The value of an argument. -/
inductive Value where
  | null
  | unset
  | boolean (value : Bool)
  | int (value : Int)
  | float (value : Binary64)
  | decimal (value : DecimalValue)
  | text (value : String)
  /-- A member of an enumeration, with the value that it has there. -/
  | enum (name : String) (value : Value)
  | date (value : Date)
  | time (value : Time)
  | dateTime (date : Date) (time : Time)
  | uuid (value : Nat)
  | sequence (kind : SequenceKind) (items : List Value)
  | mapping (entries : List (Value × Value))
  /-- A model, with the names under which its fields are sent; a field may have no value. -/
  | model (fields : List (String × Option Value))
  /-- A value of a type that has no literal. -/
  | other (typeName : String)
deriving Repr, Inhabited

namespace Value

/-! ## Keys -/

/-- The number that a value is, as a fraction. -/
def fraction? : Value → Option (Int × Nat)
  | .boolean b => some (if b then 1 else 0, 1)
  | .int n => some (n, 1)
  | .float (.finite negative significand exponent) =>
    let (p, q) := Binary64.powerOfTwo exponent
    some (if negative then -(significand * p : Nat) else (significand * p : Nat), q)
  | .decimal (.finite d) =>
    let size :=
      if 0 ≤ d.exponent then d.coefficient * Nat.pow 10 d.exponent.toNat else d.coefficient
    let scale := if 0 ≤ d.exponent then 1 else Nat.pow 10 (-d.exponent).toNat
    some (if d.negative then -(size : Int) else size, scale)
  | _ => none

/-- The infinity that a value is, by its sign. -/
def infinity? : Value → Option Bool
  | .float (.infinite negative) => some negative
  | .decimal (.infinite negative) => some negative
  | _ => none

/- Two values are the same key if they are the same number, or the same text, date and so on;
tuples are compared item by item. -/
mutual

/-- The same key of a mapping. -/
def sameKey : Value → Value → Bool
  | .null, .null => true
  | .unset, .unset => true
  | .text s, .text t => s == t
  | .date d, .date e => d == e
  | .time t, .time u => t == u
  | .dateTime d t, .dateTime e u => d == e && t == u
  | .uuid m, .uuid n => m == n
  | .sequence _ xs, .sequence _ ys => sameKeys xs ys
  | a, b =>
    match a.fraction?, b.fraction? with
    | some (m, p), some (n, q) => m * q == n * p
    | _, _ => a.infinity?.isSome && a.infinity? == b.infinity?

/-- The same keys, item by item. -/
def sameKeys : List Value → List Value → Bool
  | [], [] => true
  | x :: xs, y :: ys => sameKey x y && sameKeys xs ys
  | _, _ => false

end

/-- Puts a value under a key, at the key's place or else at the end. -/
def putEntry (key value : Value) : List (Value × Value) → List (Value × Value)
  | [] => [(key, value)]
  | (k, v) :: rest =>
    if sameKey k key then (k, value) :: rest else (k, v) :: putEntry key value rest

/-- The mapping with the given entries; of two entries of one key the later counts. -/
def ofEntries (entries : List (Value × Value)) : Value :=
  .mapping (entries.foldl (fun es e => putEntry e.1 e.2 es) [])

/-- The values that a value runs through: items, keys or single characters. -/
def elements : Value → List Value
  | .sequence _ items => items
  | .mapping entries => entries.map (·.1)
  | .text s => s.toList.map fun c => .text (String.ofList [c])
  | _ => []

/- How a key is written, and how it is shown inside a tuple. -/
mutual

/-- The text of a value inside a tuple: a text is quoted there. -/
def shown : Value → String
  | .text s => Text.quoted s
  | .decimal d => "Decimal(" ++ Text.quoted d.text ++ ")"
  | .uuid n => "UUID(" ++ Text.quoted (uuidText n) ++ ")"
  | .date d => s!"datetime.date({d.year}, {d.month}, {d.day})"
  | v => keyText v

/-- The text of a key. -/
def keyText : Value → String
  | .null => "None"
  | .unset => "UNSET"
  | .boolean b => if b then "True" else "False"
  | .int n => intText n
  | .float x => x.text
  | .decimal d => d.text
  | .text s => s
  | .enum name _ => name
  | .date d => d.text
  | .time t => t.text
  | .dateTime d t => d.text ++ " " ++ t.text
  | .uuid n => uuidText n
  | .sequence _ [x] => "(" ++ shown x ++ ",)"
  | .sequence _ xs => "(" ++ ", ".intercalate (shownAll xs) ++ ")"
  | .mapping _ | .model _ | .other _ => ""

/-- The texts of the items of a tuple. -/
def shownAll : List Value → List String
  | [] => []
  | x :: xs => shown x :: shownAll xs

end

end Value

end ClientGen.Request
