import ClientGen.Entries
import ClientGen.Request.Literal

/-!
# Selections of a request

What a request selects: fields with their arguments, each with or without a selection below
it, and after them the fragments. Where nothing is selected, the name of the type is.

Main definition: `SelectionTree.text`.
-/

namespace ClientGen.Request

/-- A selection, with the type that it is on. Of a field selected twice the first place and
the last selection count. -/
inductive SelectionTree where
  | node (type? : Option String) (fields : List (String × Option SelectionTree))
      (arguments : List (String × List (String × Value))) (fragments : List SelectionTree)
deriving Inhabited

namespace SelectionTree

/-- The type of a selection. -/
def type? : SelectionTree → Option String
  | node t _ _ _ => t

/-- A selection of nothing. -/
def empty (type? : Option String) : SelectionTree :=
  node type? [] [] []

/-- Without the arguments that are unset. -/
def passed (arguments : List (String × Value)) : List (String × Value) :=
  arguments.filter fun (_, v) => match v with
    | .unset => false
    | _ => true

/-- Records the arguments of a field, in place of earlier ones. -/
def recordArguments (field : String) (arguments : List (String × Value))
    (recorded : List (String × List (String × Value))) : List (String × List (String × Value)) :=
  match passed arguments with
  | [] => Entries.erase field recorded
  | given => Entries.put field given recorded

/-- The parts of a selection in braces. -/
def inBraces : List String → String
  | [] => "\x7b __typename \x7d"
  | parts => "\x7b " ++ " ".intercalate parts ++ " \x7d"

/-- What a fragment begins with. -/
def fragmentHead (type? : Option String) : String :=
  "... on " ++ type?.getD "None" ++ " "

/- The recursion follows the tree: the selections below fields, then the fragments. -/
mutual

/-- The text of a selection. -/
def text : SelectionTree → Except LiteralError String
  | node _ fields arguments fragments => do
    let selected ← fieldTexts arguments fields
    let narrowed ← fragmentTexts fragments
    return inBraces (selected ++ narrowed)

/-- The texts of fields, with their arguments. -/
def fieldTexts (arguments : List (String × List (String × Value))) :
    List (String × Option SelectionTree) → Except LiteralError (List String)
  | [] => .ok []
  | (name, none) :: rest => do
    let given ← parenthesised ((Entries.get? name arguments).getD [])
    let others ← fieldTexts arguments rest
    return (name ++ given) :: others
  | (name, some below) :: rest => do
    let given ← parenthesised ((Entries.get? name arguments).getD [])
    let inner ← text below
    let others ← fieldTexts arguments rest
    return (name ++ given ++ " " ++ inner) :: others

/-- The texts of fragments. -/
def fragmentTexts : List SelectionTree → Except LiteralError (List String)
  | [] => .ok []
  | f :: fs => do
    let inner ← text f
    let others ← fragmentTexts fs
    return (fragmentHead f.type? ++ inner) :: others

end

/-- The text of a selection that is a fragment. -/
def fragmentText (s : SelectionTree) : Except LiteralError String := do
  return fragmentHead s.type? ++ (← s.text)

end SelectionTree

end ClientGen.Request
