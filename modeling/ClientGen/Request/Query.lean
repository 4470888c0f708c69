import ClientGen.Request.Selection
import ClientGen.Text.Sorted

/-!
# Requests

A request selects one root field of an operation, with arguments and perhaps under an alias.
Several requests of the same kind of operation can be sent as one.
-/

namespace ClientGen.Request

/-! ## Queries -/

/-- One root field of an operation with its arguments. -/
structure Query where
  field : String
  operation : String := "query"
  name? : Option String := none
  alias? : Option String := none
  input : List (String × Value) := []

namespace Query

/-- The query for federation entities. -/
def entities (representations : List Value) (name? : Option String) : Query :=
  { field := "_entities"
    name?
    input := [("representations", .sequence .list representations)] }

/-- The query with more arguments, in place of those of the same names. -/
def withInput (q : Query) (more : List (String × Value)) : Query :=
  { q with input := more.foldl (fun es e => Entries.put e.1 e.2 es) q.input }

end Query

/-! ## Texts -/

/-- A query with what is selected of its result. -/
structure FieldRequest where
  query : Query
  selection? : Option SelectionTree

/-- A name that is there and not empty. -/
def given? (name? : Option String) : Option String :=
  name?.filter (· ≠ "")

/-- The keyword of an operation and its name. -/
def operationHeader (operation : String) (name? : Option String) : String :=
  match given? name? with
  | none => operation
  | some name => operation ++ " " ++ name

/-- An operation with its fields. -/
def operationText (operation : String) (name? : Option String) (fields : List String) : String :=
  operationHeader operation name? ++ " \x7b " ++ " ".intercalate fields ++ " \x7d"

namespace FieldRequest

/-- The root field with its alias, arguments and selection. -/
def fieldText (r : FieldRequest) : Except LiteralError String := do
  let aliased := match given? r.query.alias? with
    | none => r.query.field
    | some name => name ++ ": " ++ r.query.field
  let arguments ← parenthesised r.query.input
  match r.selection? with
  | none => return aliased ++ arguments
  | some s => return aliased ++ arguments ++ " " ++ (← s.text)

/-- The operation that the request sends. -/
def text (r : FieldRequest) : Except LiteralError String := do
  return operationText r.query.operation r.query.name? [← r.fieldText]

end FieldRequest

/-! ## Several requests at once -/

/-- Why requests cannot be sent as one. -/
inductive CombineError where
  | noRequests
  | differentOperations (operations : List String)
deriving Repr, DecidableEq

/-- The wording of the refusal. -/
def CombineError.message : CombineError → String
  | .noRequests => "GraphQLMultiQueryRequest needs at least one request"
  | .differentOperations operations =>
    "Cannot combine different operation types: " ++ ", ".intercalate operations

/-- Several requests of one kind of operation. -/
structure CombinedRequest where
  requests : List FieldRequest
  operation : String
  name? : Option String

namespace CombinedRequest

/-- The requests as one, if there are any and they are of one kind. -/
def ofRequests (requests : List FieldRequest) (name? : Option String) :
    Except CombineError CombinedRequest :=
  match Text.sortedSet (requests.map (·.query.operation)) with
  | [] => .error .noRequests
  | [operation] => .ok ⟨requests, operation, name?⟩
  | operations => .error (.differentOperations operations)

/-- The operation that the requests send. -/
def text (r : CombinedRequest) : Except LiteralError String := do
  return operationText r.operation r.name? (← r.requests.mapM (·.fieldText))

end CombinedRequest

end ClientGen.Request
