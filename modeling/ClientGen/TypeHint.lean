import ClientGen.Scalars
import ClientGen.Schema.Lookup

/-!
# Type hints

How a reference to a GraphQL type reads in an annotation: `Optional[List[Movie]]`. Built-in
scalars come first, then custom scalars, then the types of the schema; a union reads as the
union of its members, and what is not known as `Any`.
-/

namespace ClientGen

/-- What type references are resolved against. -/
structure TypeScope where
  schema : Schema
  scalars : Scalars

namespace TypeScope

/-- The Python types of the built-in scalars. -/
def builtinTypes : List (String × String) :=
  [("String", "str"), ("ID", "str"), ("Int", "int"), ("Float", "float"), ("Boolean", "bool")]

/-- The union of some types. -/
def unionHint : List String → String
  | [] => "Any"
  | [member] => member
  | members => "Union[" ++ ", ".intercalate members ++ "]"

/-- The hint for a type of the schema, or for a name that is unknown. -/
def schemaType (s : TypeScope) (name : String) : String :=
  match s.schema.findType? name with
  | none => "Any"
  | some t =>
    match t.kind with
    | .scalar => "Any"
    | .union => unionHint ((s.schema.unionMembers name).map (·.name))
    | _ => t.name

/-- The hint for a type by itself. -/
def typeName (s : TypeScope) (name : String) : String :=
  match Entries.get? name builtinTypes with
  | some t => t
  | none =>
    match s.scalars.get? name with
    | some scalar => scalar.typeName
    | none => s.schemaType name

/-- The hint for a reference to a type. An `Any` is never made optional. -/
def hint (s : TypeScope) (name : String) (isList isOptional : Bool) : String :=
  let base := s.typeName name
  let listed := if isList then "List[" ++ base ++ "]" else base
  if isOptional && listed ≠ "Any" then "Optional[" ++ listed ++ "]" else listed

/-- The import statements that a hint for the type needs. -/
def importsFor (s : TypeScope) (name : String) : List String :=
  match Entries.get? name builtinTypes with
  | some _ => []
  | none => ((s.scalars.get? name).bind (·.importStatement?)).toList

/-- A class for the type belongs to the data types. -/
def isDataType (s : TypeScope) (name : String) : Bool :=
  (Entries.get? name builtinTypes).isNone && !s.scalars.has name
    && ((s.schema.findType? name).any (·.kind ≠ .scalar))

end TypeScope

/-- An argument that is sent even when it is not given: a single non-null number or
boolean. -/
def InputValue.isPrimitive (a : InputValue) : Bool :=
  ["Int", "Float", "Boolean"].contains a.typeName && !a.isOptional && !a.isList

end ClientGen
