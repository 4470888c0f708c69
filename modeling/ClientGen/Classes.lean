import ClientGen.Document.Basic
import ClientGen.FieldFilter

/-!
# Generated classes

The classes of a client, as descriptions: query classes, projection classes and data types,
each with the package that it belongs to. An `Output` collects them by category, together
with the warnings of the run; outputs are put together by concatenation.
-/

namespace ClientGen

open ClientGen.Document (OperationKind)

/-! ## Query classes -/

/-- A GraphQL argument as a parameter. -/
structure Parameter where
  /-- The name of the argument, under which it is sent. -/
  name : String
  /-- The identifier of the parameter. -/
  identifier : String
  hint : String
  /-- Sent even when it is not given. -/
  alwaysSent : Bool := false
  description? : Option String := none
deriving Repr, DecidableEq, Inhabited

/-- A class for one root field. -/
structure QueryClass where
  package : String
  name : String
  /-- The root field. -/
  field : String
  kind : OperationKind
  parameters : List Parameter := []
  /-- The identifier of the parameter that lists the arguments to be sent. -/
  fieldsSetIdentifier : String := "fields_set"
  imports : List String := []
  description? : Option String := none
deriving Repr, DecidableEq, Inhabited

/-! ## Projection classes -/

/-- How a projection reaches its root: it is the root, or it asks for it. -/
inductive RootAccess where
  | itself
  | lookup
deriving Repr, DecidableEq, Inhabited

/-- What a method of a projection does. -/
inductive MethodAction where
  /-- Selects a field without sub-fields and returns the projection itself. -/
  | select (field : String)
  /-- Selects a field and returns a projection below it. -/
  | descend (field : String) (root : RootAccess)
  /-- Adds a fragment on a type and returns it. -/
  | narrow (type : String) (root : RootAccess)
deriving Repr, DecidableEq, Inhabited

/-- A method of a projection class. -/
structure Method where
  name : String
  /-- The class that it returns. -/
  returns : String
  action : MethodAction
  parameters : List Parameter := []
  description? : Option String := none
deriving Repr, DecidableEq, Inhabited

/-- The three kinds of projection classes. -/
inductive ProjectionBase where
  | root
  | sub
  | fragment
deriving Repr, DecidableEq, Inhabited

/-- A class for the selections on one position of a query. -/
structure ProjectionClass where
  package : String
  name : String
  schemaType : String
  base : ProjectionBase
  parent? : Option String := none
  root? : Option String := none
  /-- Selects the name of the type from the start. -/
  includeTypename : Bool := false
  methods : List Method := []
  imports : List String := []
  description? : Option String := none
deriving Repr, DecidableEq, Inhabited

/-! ## Data types -/

/-- A field of a data type. -/
structure DataField where
  name : String
  hint : String
  /-- The name of the field in the schema, where it is another one. -/
  alias? : Option String := none
  required : Bool := false
  description? : Option String := none
deriving Repr, DecidableEq, Inhabited

/-- The content of a data type. -/
inductive DataBody where
  | model (fields : List DataField)
  | input (fields : List DataField)
  | enum (values : List String)
deriving Repr, DecidableEq, Inhabited

namespace DataBody

/-- The fields of a model or input. -/
def fields : DataBody → List DataField
  | model fields => fields
  | input fields => fields
  | enum _ => []

/-- The values of an enum. -/
def values : DataBody → List String
  | enum values => values
  | _ => []

/-- The word for a kind of class. -/
def kindName : DataBody → String
  | model _ => "model"
  | input _ => "input"
  | enum _ => "enum"

end DataBody

/-- A class for a type of the schema. -/
structure DataClass where
  package : String
  name : String
  body : DataBody
  imports : List String := []
  description? : Option String := none
deriving Repr, DecidableEq, Inhabited

/-- A union that was emitted into a package. Its members have classes there; it has none, but
its name is given out. -/
structure EmittedUnion where
  package : String
  name : String
deriving Repr, DecidableEq, Inhabited

/-- The name of a union with its package. -/
def EmittedUnion.qualifiedName (u : EmittedUnion) : String :=
  u.package ++ "." ++ u.name

/-! ## All classes of a run -/

/-- A class of any category. -/
inductive GeneratedClass where
  | query (c : QueryClass)
  | projection (c : ProjectionClass)
  | dataType (c : DataClass)
deriving Repr, DecidableEq, Inhabited

namespace GeneratedClass

/-- The name of a class. -/
def name : GeneratedClass → String
  | query c => c.name
  | projection c => c.name
  | dataType c => c.name

/-- The package of a class. -/
def package : GeneratedClass → String
  | query c => c.package
  | projection c => c.package
  | dataType c => c.package

/-- The name of a class with its package. -/
def qualifiedName (c : GeneratedClass) : String :=
  c.package ++ "." ++ c.name

/-- The word for a category. -/
def category : GeneratedClass → String
  | query _ => "query"
  | projection _ => "projection"
  | dataType _ => "data_type"

/-- The imports that a class needs. -/
def imports : GeneratedClass → List String
  | query c => c.imports
  | projection c => c.imports
  | dataType c => c.imports

/-- What a class is about. -/
def description? : GeneratedClass → Option String
  | query c => c.description?
  | projection c => c.description?
  | dataType c => c.description?

end GeneratedClass

/-- The classes and warnings of a run, or of a part of it. -/
structure Output where
  queries : List QueryClass := []
  projections : List ProjectionClass := []
  dataTypes : List DataClass := []
  /-- The unions among the data types. -/
  unions : List EmittedUnion := []
  warnings : List ExcludedSelection := []
deriving Repr, Inhabited

namespace Output

/-- Both outputs, one after the other. -/
def merge (a b : Output) : Output :=
  ⟨a.queries ++ b.queries, a.projections ++ b.projections, a.dataTypes ++ b.dataTypes,
    a.unions ++ b.unions, a.warnings ++ b.warnings⟩

instance : Append Output := ⟨merge⟩

instance : EmptyCollection Output := ⟨{}⟩

/-- All classes, by category. -/
def classes (o : Output) : List GeneratedClass :=
  o.queries.map .query ++ o.projections.map .projection ++ o.dataTypes.map .dataType

/-- The names that stand for what is in an output: those of its classes, and those of its
unions. -/
def names (o : Output) : List String :=
  o.classes.map (·.qualifiedName) ++ o.unions.map (·.qualifiedName)

/-- How many classes there are. -/
def size (o : Output) : Nat :=
  o.classes.length

/-- The first class of a name. -/
def find? (o : Output) (name : String) : Option GeneratedClass :=
  o.classes.find? (·.name = name)

end Output

end ClientGen
