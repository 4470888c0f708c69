import ClientGen.Classes
import ClientGen.Example.Operations
import ClientGen.Naming.Registry
import ClientGen.Naming.Shortener
import ClientGen.Naming.Unique
import ClientGen.TypeHint

/-!
# The setting of a run

What a run generates from, and what it has given out so far: the registered class names and
the short forms. Two runs never see each other's names.
-/

namespace ClientGen

/-- What a run generates from. -/
structure Context where
  schema : Schema
  config : Config := {}
  scalars : Scalars := Scalars.default
  examples : ExampleDocument := []

/-- What a run has given out so far. -/
structure RunState where
  registry : Naming.Registry := {}
  shortener : Naming.Shortener := {}
deriving Repr, Inhabited

/-- Why a run fails. -/
inductive RunError where
  | schema (error : SchemaError)
  /-- A union that is a member of itself, through whichever others: its fragments have no
  end. -/
  | endlessFragments
deriving Repr, DecidableEq

/-- The wording of a failure. -/
def RunError.message : RunError → String
  | .schema error => error.message
  | .endlessFragments => "maximum recursion depth exceeded"

/-- A part of a run. Where it fails, the names that it has given out by then stay given out. -/
abbrev Run := EStateM RunError RunState

namespace Context

/-- What type references are resolved against. -/
def scope (ctx : Context) : TypeScope :=
  ⟨ctx.schema, ctx.scalars⟩

/-! ## Parameters -/

/-- An argument as a parameter whose identifier is not taken. Where all parameters may be
left out, so may this one. -/
def parameter (ctx : Context) (taken : List String) (allOptional : Bool) (a : InputValue) :
    Parameter :=
  { name := a.name
    identifier := Naming.memberName taken a.name
    hint := ctx.scope.hint a.typeName a.isList (allOptional || a.isOptional)
    alwaysSent := a.isPrimitive
    description? := a.description? }

/-- The arguments of a field as parameters, with the identifiers that are then taken. -/
def parameters (ctx : Context) (taken : List String) (allOptional : Bool) :
    List InputValue → List Parameter × List String
  | [] => ([], taken)
  | a :: more =>
    let p := ctx.parameter taken allOptional a
    let (ps, taken) := ctx.parameters (p.identifier :: taken) allOptional more
    (p :: ps, taken)

/-- The imports that the hints of some arguments need. -/
def argumentImports (ctx : Context) (arguments : List InputValue) : List String :=
  arguments.flatMap fun a => ctx.scope.importsFor a.typeName

/-! ## Fields at a position -/

/-- The fields of a type that are generated where an example selects. -/
def choice (ctx : Context) (type : String) (selection? : Option Selection) : FieldChoice :=
  ctx.config.selectFields type (ctx.schema.fieldsOf type) selection? false

/-- What is selected below a field. -/
def childSelection? (selection? : Option Selection) (type field : String) : Option Selection :=
  selection?.bind fun s => s.child? field (some type)

/-- What is selected in the fragments on a type. -/
def fragmentSelection? (selection? : Option Selection) (type : String) : Option Selection :=
  selection?.bind fun s => s.fragment? type

end Context

end ClientGen
