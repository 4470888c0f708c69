import ClientGen.Naming.Reserved
import ClientGen.Source.Token

/-!
# Scanning tokens

Steps that take tokens from the front of a row, or leave them in place and look at them; how
steps are repeated; and what a production of the grammar may contain.

Main definitions: `Source.Scan`, `Source.Shape`, `Source.Goals`.
-/

namespace ClientGen.Source

/-- Takes tokens from the front. -/
abbrev Scan (α : Type) := StateT (List Token) Option α

/-! ## Shapes

An expression may stand where a value is assigned, annotated or deleted. -/

/-- In which of these places an expression may stand. -/
structure Shape where
  /-- To the left of an assignment, or in a loop. -/
  isTarget : Bool := false
  /-- To the left of an annotation or of an augmented assignment. -/
  isSingle : Bool := false
  /-- In a deletion. -/
  isDeletable : Bool := false

namespace Shape

/-- An expression that only has a value. -/
def value : Shape := {}

/-- A name, an attribute or an item. -/
def place : Shape := ⟨true, true, true⟩

/-- An expression behind an asterisk. -/
def starred (s : Shape) : Shape := { isTarget := s.isTarget }

/-- Several expressions in a row. -/
def row (shapes : List Shape) : Shape :=
  { isTarget := shapes.all (·.isTarget), isDeletable := shapes.all (·.isDeletable) }

end Shape

/-! ## Single tokens -/

namespace Scan

variable {α : Type}

/-- The next token, left in place. -/
def peek? : Scan (Option Token) :=
  fun ts => some (ts.head?, ts)

/-- The token after the next one, left in place. -/
def peekSecond? : Scan (Option Token) :=
  fun ts => some ((ts.drop 1).head?, ts)

/-- The next token. -/
def next : Scan Token
  | [] => none
  | t :: rest => some (t, rest)

/-- Takes the next token if it is the given one, and says whether it was. -/
def accept (t : Token) : Scan Bool
  | [] => some (false, [])
  | u :: rest => if u = t then some (true, rest) else some (false, u :: rest)

/-- The given token. -/
def expect (t : Token) : Scan Unit := do
  if ← accept t then pure () else failure

/-- An operator, if it comes next. -/
def acceptOp (o : String) : Scan Bool := accept (.op o)

/-- A keyword, if it comes next. -/
def acceptWord (w : String) : Scan Bool := accept (.name w)

/-- One of some operators, if it comes next. -/
def acceptOneOf (os : List String) : Scan Bool
  | .op o :: rest => if os.contains o then some (true, rest) else some (false, .op o :: rest)
  | ts => some (false, ts)

/-- A name that is no keyword. -/
def identifier : Scan Unit := do
  match ← next with
  | .name w => if Naming.keywords.contains w then failure else pure ()
  | _ => failure

/-- Repeats a step as long as it says so. The fuel bounds the number of times. -/
def repeatWithin (step : Scan Bool) : Nat → Scan Unit
  | 0 => failure
  | fuel + 1 => do
    if ← step then repeatWithin step fuel else pure ()

/-- Repeats a step, which takes a token every time, as long as it says so. -/
def repeated (step : Scan Bool) : Scan Unit :=
  fun ts => repeatWithin step (ts.length + 1) ts

/-- Items as long as there are more, each followed by the question whether there are. -/
def rowWithin (item : Scan α) (more : Scan Bool) : Nat → Scan (List α)
  | 0 => failure
  | fuel + 1 => do
    let a ← item
    if ← more then return a :: (← rowWithin item more fuel) else return [a]

/-- At least one item, as long as there are more. -/
def row (item : Scan α) (more : Scan Bool) : Scan (List α) :=
  fun ts => rowWithin item more (ts.length + 1) ts

/-- A comma with something after it; `stops` says what no item begins with. A comma at the end
is taken as well. -/
def comma (stops : Token → Bool) : Scan Bool := do
  if ← acceptOp "," then
    match ← peek? with
    | none => return false
    | some t => return !stops t
  else return false

/-- Items up to a token that is left in place; each says whether it has an asterisk. One alone
has an asterisk only if a comma follows. -/
def openRow (item : Scan Bool) (stops : Token → Bool) : Scan Unit := do
  let isStarred ← item
  if ← acceptOp "," then
    if !(← peek?).any stops then
      let _ ← row item (comma stops)
  else if isStarred then failure

/-- A name with dots. -/
def dottedName : Scan Unit := do
  let _ ← row identifier (acceptOp ".")

end Scan

/-- A closing bracket. -/
def closes (t : Token) : Bool :=
  match t with
  | .op o => isClosing o
  | _ => false

/-- The operators of augmented assignments. -/
def augmented : List String :=
  ["+=", "-=", "*=", "@=", "/=", "%=", "&=", "|=", "^=", "<<=", ">>=", "**=", "//="]

/-- What ends a row of expressions in a statement. -/
def endsRow (t : Token) : Bool :=
  match t with
  | .newline => true
  | .op o => isClosing o || o == "=" || o == ":" || o == ";" || augmented.contains o
  | _ => false

/-! ## Goals -/

/-- What a production may contain. -/
inductive Goal where
  | expression
  | disjunction
  | inversion
  | operand
  | factor
  | primary
  | pattern
  | statement

/-- How a production reaches the goals inside it. -/
abbrev Goals := Goal → Scan Shape

end ClientGen.Source
