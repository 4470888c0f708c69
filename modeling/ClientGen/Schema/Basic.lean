import ClientGen.Document.Basic
import ClientGen.Number.Binary64

/-!
# Schemas

What the generator knows of a GraphQL schema: the named types in the order in which they were
first mentioned, the fields that extensions add to them, and the root type of each kind of
operation. Nothing here is checked; a field may name a type that does not exist, and a union
may list anything.
-/

namespace ClientGen

open ClientGen.Document (OperationKind)

/-! ## Parts of a type -/

/-- A constant: a default value or the argument of a directive. The name of an enum value is
its text. -/
inductive Constant where
  | null
  | boolean (value : Bool)
  | int (value : Int)
  | float (value : Number.Binary64)
  | text (value : String)
  | list (items : List Constant)
  | object (fields : List (String × Constant))
deriving Repr, Inhabited

/-- A directive on a type or field. -/
structure AppliedDirective where
  name : String
  arguments : List (String × Constant)
deriving Repr, Inhabited

/-- An argument of a field, or a field of an input type. -/
structure InputValue where
  name : String
  typeName : String
  isList : Bool
  isOptional : Bool
  /-- The default value; a default of null is none. -/
  default? : Option Constant
  description? : Option String
deriving Repr, Inhabited

/-- A field of an object or interface type. Of its type only the name is kept, whether it is
a list, and whether it may be null. -/
structure Field where
  name : String
  typeName : String
  isList : Bool
  isOptional : Bool
  description? : Option String
  arguments : List InputValue
  directives : List AppliedDirective
deriving Repr, Inhabited

/-- A value of an enum type. -/
structure EnumValue where
  name : String
  description? : Option String
deriving Repr, Inhabited

/-- The kinds of named types. -/
inductive TypeKind where
  | object
  | interface
  | union
  | enum
  | scalar
  | input
deriving Repr, DecidableEq, Inhabited

namespace TypeKind

/-- The kinds of types of which a query selects fields. -/
def isSelectable : TypeKind → Bool
  | object | interface | union => true
  | enum | scalar | input => false

/-- The word for a kind. -/
def name : TypeKind → String
  | object => "object"
  | interface => "interface"
  | union => "union"
  | enum => "enum"
  | scalar => "scalar"
  | input => "input"

/-- The kind that a word stands for. -/
def ofName? (word : String) : Option TypeKind :=
  [object, interface, union, enum, scalar, input].find? (·.name = word)

end TypeKind

/-! ## Types and schemas -/

/-- A named type. Its kind says which of the lists a definition fills; an extension may add
interfaces, members and directives to a type of any kind. -/
structure TypeDef where
  name : String
  kind : TypeKind
  fields : List Field := []
  interfaces : List String := []
  members : List String := []
  values : List EnumValue := []
  inputFields : List InputValue := []
  directives : List AppliedDirective := []
  description? : Option String := none
deriving Repr, Inhabited

/-- The root types of the three kinds of operation. -/
structure Roots where
  query : String := "Query"
  mutation : String := "Mutation"
  subscription : String := "Subscription"
deriving Repr, DecidableEq, Inhabited

namespace Roots

/-- The root type of a kind of operation. -/
def get (r : Roots) : OperationKind → String
  | .query => r.query
  | .mutation => r.mutation
  | .subscription => r.subscription

/-- Another root type for a kind of operation. -/
def set (r : Roots) (kind : OperationKind) (name : String) : Roots :=
  match kind with
  | .query => { r with query := name }
  | .mutation => { r with mutation := name }
  | .subscription => { r with subscription := name }

/-- The root types by kind of operation. -/
def toList (r : Roots) : List (OperationKind × String) :=
  [(.query, r.query), (.mutation, r.mutation), (.subscription, r.subscription)]

end Roots

/-- A schema. No two types have the same name. -/
structure Schema where
  types : List TypeDef := []
  /-- For each extended type, the fields that its extensions add. -/
  extensions : List (String × List Field) := []
  roots : Roots := {}
deriving Repr, Inhabited

/-- What a schema can lack. -/
inductive SchemaError where
  | unknownType (name : String)
  | unknownRootFieldType (root field typeName : String)
deriving Repr, DecidableEq

/-- The wording of a schema error. -/
def SchemaError.message : SchemaError → String
  | .unknownType name => s!"Unknown type '{name}'"
  | .unknownRootFieldType root field typeName =>
    s!"{root}.{field} returns unknown type '{typeName}'"

end ClientGen
