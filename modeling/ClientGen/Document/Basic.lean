import ClientGen.Number.Decimal

/-!
# GraphQL documents

The tree of a document, type system and executable definitions alike (October 2021). What
the generator never looks at is kept only as far as the grammar has to recognise it: a
directive definition is its name, and an extension of a schema, scalar, enum or input type is
a definition without content.
-/

namespace ClientGen.Document

open ClientGen.Number (Decimal)

/-! ## Values and types -/

/-- A value literal. -/
inductive Value where
  | var (name : String)
  | int (value : Int)
  | float (value : Decimal)
  | string (value : String)
  | boolean (value : Bool)
  | null
  | enum (name : String)
  | list (items : List Value)
  | object (fields : List (String × Value))
deriving Repr, Inhabited

/-- A reference to a type. -/
inductive TypeRef where
  | named (name : String)
  | list (item : TypeRef)
  | nonNull (inner : TypeRef)
deriving Repr, DecidableEq, Inhabited

/-- A named value in parentheses. -/
structure Argument where
  name : String
  value : Value
deriving Repr

/-- A directive where it is applied. -/
structure Directive where
  name : String
  arguments : List Argument
deriving Repr

/-! ## Executable definitions -/

/-- The three kinds of operation. -/
inductive OperationKind where
  | query
  | mutation
  | subscription
deriving Repr, DecidableEq, Inhabited

namespace OperationKind

/-- The keyword of an operation. -/
def keyword : OperationKind → String
  | .query => "query"
  | .mutation => "mutation"
  | .subscription => "subscription"

/-- The kind with a given keyword. -/
def ofKeyword? : String → Option OperationKind
  | "query" => some .query
  | "mutation" => some .mutation
  | "subscription" => some .subscription
  | _ => none

theorem ofKeyword?_keyword (k : OperationKind) : ofKeyword? k.keyword = some k := by
  cases k <;> rfl

end OperationKind

/-- One entry of a selection set; a field without braces has no selections. -/
inductive SelectionNode where
  | field (alias? : Option String) (name : String) (arguments : List Argument)
      (directives : List Directive) (selections : List SelectionNode)
  | inlineFragment (typeCondition : Option String) (directives : List Directive)
      (selections : List SelectionNode)
  | spread (fragment : String) (directives : List Directive)
deriving Repr

/-- A variable of an operation. -/
structure VariableDefinition where
  name : String
  type : TypeRef
  default? : Option Value
  directives : List Directive
deriving Repr

/-- An operation. -/
structure Operation where
  kind : OperationKind
  name? : Option String
  parameters : List VariableDefinition
  directives : List Directive
  selections : List SelectionNode
deriving Repr

/-- A named fragment. -/
structure Fragment where
  name : String
  typeCondition : String
  directives : List Directive
  selections : List SelectionNode
deriving Repr

/-! ## Type system definitions -/

/-- A field argument or an input field. -/
structure InputDefinition where
  description? : Option String
  name : String
  type : TypeRef
  default? : Option Value
  directives : List Directive
deriving Repr

/-- A field of an object or interface type. -/
structure FieldDefinition where
  description? : Option String
  name : String
  arguments : List InputDefinition
  type : TypeRef
  directives : List Directive
deriving Repr

/-- A value of an enum type. -/
structure EnumValueDefinition where
  description? : Option String
  name : String
  directives : List Directive
deriving Repr

/-- What every type definition begins with. -/
structure TypeHeader where
  description? : Option String
  name : String
  directives : List Directive
deriving Repr

/-- The content of a type definition, by its kind. -/
inductive TypeBody where
  | scalar
  | object (interfaces : List String) (fields : List FieldDefinition)
  | interface (interfaces : List String) (fields : List FieldDefinition)
  | union (members : List String)
  | enum (values : List EnumValueDefinition)
  | input (fields : List InputDefinition)
deriving Repr

/-- The extensions that add to a type. -/
inductive TypeExtension where
  | object (name : String) (interfaces : List String) (directives : List Directive)
      (fields : List FieldDefinition)
  | interface (name : String) (interfaces : List String) (directives : List Directive)
      (fields : List FieldDefinition)
  | union (name : String) (directives : List Directive) (members : List String)
deriving Repr

/-- A definition of a document. -/
inductive Definition where
  | operation (operation : Operation)
  | fragment (fragment : Fragment)
  | schema (roots : List (OperationKind × String))
  | type (header : TypeHeader) (body : TypeBody)
  | typeExtension (extension : TypeExtension)
  | directive (name : String)
  | otherExtension
deriving Repr

end ClientGen.Document

namespace ClientGen

/-- A document is the list of its definitions. -/
abbrev Document := List Document.Definition

end ClientGen
