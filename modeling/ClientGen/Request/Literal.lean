import ClientGen.Request.Value
import ClientGen.Text.JsonString

/-!
# Value literals

How an argument value is written in a request. What is unset is null where a value has to
stand; a model is written as the mapping of its fields that have a value.

Main definition: `Value.literal`.
-/

namespace ClientGen.Request

/-- A value of this type has no literal. -/
structure LiteralError where
  typeName : String
deriving Repr, DecidableEq

/-- The wording of the refusal. -/
def LiteralError.message (e : LiteralError) : String :=
  s!"Cannot serialize {e.typeName} as a GraphQL value"

namespace Value

/-- The name under which a member of an enumeration is sent: its value, if that is a text. -/
def enumName (name : String) : Value → String
  | .text s => s
  | _ => name

/-- Items in brackets. -/
def bracketed (items : List String) : String :=
  "[" ++ ", ".intercalate items ++ "]"

/-- Items in braces. -/
def braced (items : List String) : String :=
  "\x7b" ++ ", ".intercalate items ++ "\x7d"

/- The recursion follows the value: its items, the values of its entries, and the fields of a
model that have a value. -/
mutual

/-- The literal of a value. -/
def literal : Value → Except LiteralError String
  | .null => .ok "null"
  | .unset => .ok "null"
  | .boolean b => .ok (if b then "true" else "false")
  | .int n => .ok (Number.intText n)
  | .float x => .ok x.text
  | .decimal d => .ok d.text
  | .text s => .ok (Text.stringLiteral s)
  | .enum name value => .ok (enumName name value)
  | .date d => .ok (Text.stringLiteral d.text)
  | .time t => .ok (Text.stringLiteral t.text)
  | .dateTime d t => .ok (Text.stringLiteral (d.text ++ "T" ++ t.text))
  | .uuid n => .ok (Text.stringLiteral (uuidText n))
  | .sequence _ items => (literals items).map bracketed
  | .mapping entries => (entryLiterals entries).map braced
  | .model fields => (fieldLiterals fields).map braced
  | .other typeName => .error ⟨typeName⟩

/-- The literals of some items. -/
def literals : List Value → Except LiteralError (List String)
  | [] => .ok []
  | v :: vs => do
    let first ← literal v
    let others ← literals vs
    return first :: others

/-- The entries of a mapping. -/
def entryLiterals : List (Value × Value) → Except LiteralError (List String)
  | [] => .ok []
  | (key, value) :: rest => do
    let first ← literal value
    let others ← entryLiterals rest
    return (key.keyText ++ ": " ++ first) :: others

/-- The fields of a model that have a value. -/
def fieldLiterals : List (String × Option Value) → Except LiteralError (List String)
  | [] => .ok []
  | (_, none) :: rest => fieldLiterals rest
  | (name, some value) :: rest => do
    let first ← literal value
    let others ← fieldLiterals rest
    return (name ++ ": " ++ first) :: others

end

end Value

/-! ## Arguments -/

/-- A named argument. -/
def argumentText (argument : String × Value) : Except LiteralError String := do
  return argument.1 ++ ": " ++ (← argument.2.literal)

/-- Named arguments with commas between them. -/
def argumentTexts (arguments : List (String × Value)) : Except LiteralError String := do
  return ", ".intercalate (← arguments.mapM argumentText)

/-- Arguments in parentheses, or nothing if there are none. -/
def parenthesised (arguments : List (String × Value)) : Except LiteralError String :=
  if arguments.isEmpty then .ok ""
  else (argumentTexts arguments).map fun t => "(" ++ t ++ ")"

end ClientGen.Request
