import ClientGen.Projection.Emission

/-!
# Generation

A whole run: for each root type the query classes and projections of its fields, and then the
projection of the federation entities.

Main definitions: `generateRoot`, the classes of one root type; `generateEntities`, those of
the entities; `generate`, all of them.
-/

namespace ClientGen

open ClientGen.Document (OperationKind)
open ClientGen.Projection

/-! ## Root fields -/

/-- The example operation of a kind. -/
def Context.example? (ctx : Context) (kind : OperationKind) : Option ExampleOperation :=
  ctx.examples.find? kind

/-- The fields of a root type that are generated. -/
def rootFields (ctx : Context) (kind : OperationKind) (root : TypeDef) : FieldChoice :=
  let fields := ctx.config.filterOperations kind (ctx.schema.fieldsOf root.name)
  ctx.config.selectFields root.name fields ((ctx.example? kind).map (·.selection)) true

/-- The first field whose type is not known. -/
def unknownField? (s : Schema) (fields : List Field) : Option Field :=
  fields.find? fun f => !s.isKnownType f.typeName

/-- The name of the query class of a field. -/
def queryName (field : String) : String :=
  Text.capitalized field ++ "GraphQLQuery"

/-- The query class of a root field. -/
def queryClass (ctx : Context) (kind : OperationKind) (f : Field) : QueryClass :=
  let (parameters, taken) := ctx.parameters Naming.queryNames true f.arguments
  { package := ctx.config.clientNamespace
    name := queryName f.name
    field := f.name
    kind
    parameters
    fieldsSetIdentifier := Naming.fresh taken "fields_set"
    imports := Text.sortedSet (ctx.argumentImports f.arguments)
    description? := f.description? }

/-- Makes the query class of a root field, with the data types of its arguments. -/
def emitQuery (ctx : Context) (kind : OperationKind) (f : Field) : Run Output := do
  if ← registerClass ctx (queryName f.name) then
    let types ← argumentTypes ctx f.arguments
    return { queries := [queryClass ctx kind f] } ++ types
  else return ∅

/-- The root projection of a field. -/
def rootPlan (field : String) : ClassPlan :=
  let stem := Text.capitalized field
  { stem, name := stem ++ "ProjectionRoot", base := .root }

/-- What an example selects below a root field. -/
def rootSelection? (example? : Option ExampleOperation) (root field : String) :
    Option Selection :=
  Context.childSelection? (example?.map (·.selection)) root field

/-- Makes the projections of a root field, if there is something to be selected on it. -/
def emitRootProjection (ctx : Context) (root : TypeDef) (example? : Option ExampleOperation)
    (f : Field) : Run Output :=
  match ctx.schema.findSelectable? f.typeName with
  | none => pure ∅
  | some target =>
    emitTree ctx (example?.bind (·.name?)) (rootPlan f.name) target
      (rootSelection? example? root.name f.name)

/-- Makes the classes of the fields of a root type. -/
def emitRootFields (ctx : Context) (kind : OperationKind) (root : TypeDef) :
    List Field → Run Output
  | [] => pure ∅
  | f :: fs => do
    let query ← emitQuery ctx kind f
    let projection ← emitRootProjection ctx root (ctx.example? kind) f
    let more ← emitRootFields ctx kind root fs
    return query ++ projection ++ more

/-- Makes the classes of a root type. All of its fields have to be of known types, which is
looked at before any name is given out. -/
def generateRoot (ctx : Context) (root : TypeDef) : Run Output := do
  let kind := (ctx.schema.operationKindOf? root.name).getD .query
  let choice := rootFields ctx kind root
  match unknownField? ctx.schema choice.fields with
  | some f => throw (.schema (.unknownRootFieldType root.name f.name f.typeName))
  | none =>
    let made ← emitRootFields ctx kind root choice.fields
    return { warnings := choice.warnings } ++ made

/-! ## Entities -/

/-- The class of the entities projection. -/
def entitiesRoot : String := "EntitiesProjectionRoot"

/-- The union of all entities. -/
def entityUnion : String := "_Entity"

/-- The projection of the entities, with its methods. -/
def entitiesClass (ctx : Context) (methods : List Method) : ProjectionClass :=
  { package := ctx.config.clientNamespace
    name := entitiesRoot
    schemaType := entityUnion
    base := .root
    methods }

/-- The fragment on an entity type. -/
def keyPlan (type : String) : ClassPlan :=
  let stem := "Entities" ++ Text.capitalized type ++ "Key"
  { stem
    name := classOfStem stem
    base := .fragment
    parent? := some entitiesRoot
    root? := some entitiesRoot }

/-- The method for the fragment on an entity type. -/
def keyMethod (name type : String) : Method :=
  { name, returns := (keyPlan type).name, action := .narrow type .itself }

/-- Makes the fragment classes of the entity types, with the methods that return them. -/
def emitEntityFragments (ctx : Context) (taken : List String) :
    List TypeDef → Run (List Method × Output)
  | [] => pure ([], ∅)
  | t :: ts => do
    let name := Naming.fragmentMethodName taken t.name
    let made ← emitTree ctx none (keyPlan t.name) t none
    let (methods, more) ← emitEntityFragments ctx (name :: taken) ts
    return (keyMethod name t.name :: methods, made ++ more)

/-- The object types with the key directive. -/
def keyedTypes (ctx : Context) (definitions : List TypeDef) : List TypeDef :=
  definitions.filter fun t => t.kind = .object && t.carries ctx.config.keyDirective

/-- Makes the projection of the entities. -/
def generateEntities (ctx : Context) (definitions : List TypeDef) : Run Output := do
  let keyed := keyedTypes ctx definitions
  if ctx.config.skipEntities || keyed.isEmpty then return ∅
  if ← registerClass ctx entitiesRoot then
    let (methods, fragments) ← emitEntityFragments ctx Naming.projectionNames keyed
    return { projections := [entitiesClass ctx methods] } ++ fragments
  else return ∅

/-! ## Whole runs -/

/-- The root types, as far as they are object types of the schema. -/
def rootTypes (s : Schema) : List TypeDef :=
  s.roots.toList.filterMap fun (_, name) => (s.findType? name).filter (·.kind = .object)

/-- Makes the classes of several root types. -/
def generateRoots (ctx : Context) : List TypeDef → Run Output
  | [] => pure ∅
  | t :: ts => do
    let made ← generateRoot ctx t
    let more ← generateRoots ctx ts
    return made ++ more

/-- Makes all classes of a schema. -/
def generateAll (ctx : Context) : Run Output := do
  let roots ← generateRoots ctx (rootTypes ctx.schema)
  let entities ← generateEntities ctx (ctx.schema.typesOfKind .object)
  return roots ++ entities

/-- All classes of a schema, in a run of their own. -/
def generate (ctx : Context) : Except RunError Output :=
  match (generateAll ctx).run {} with
  | .ok output _ => .ok output
  | .error e _ => .error e

end ClientGen
