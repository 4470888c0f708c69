import ClientGen.Context
import ClientGen.Text.Sorted

/-!
# Data types

The classes for the types that a client touches. Emitting a type emits the types that it
refers to as well, each once in a package: a type whose name is registered there already is
passed over, also while its own class is still being made.

The types still to be emitted form a stack. What a type refers to goes on top, so the classes
come in the order in which the types are reached.

Main definition: `DataTypes.emit`.
-/

namespace ClientGen

/-- A type to be emitted, as far as an example selects it. -/
structure Wanted where
  typeName : String
  selection? : Option Selection := none

namespace DataTypes

/-! ## Packages -/

/-- The package of the data types of an example operation: one of its own, or the shared one
for an operation without a name. -/
def operationPackage (c : Config) (operation? : Option String) : String :=
  match operation? with
  | none => c.typesNamespace
  | some "" => c.typesNamespace
  | some name =>
    let module := Naming.avoidKeyword (Text.lower name)
    let free := if Naming.reservedModules.contains module then module ++ "_" else module
    c.typesNamespace ++ "." ++ free

/-! ## One class -/

/-- A field of a data type whose attribute is not taken. -/
def dataField (scope : TypeScope) (taken : List String) (name typeName : String)
    (isList required : Bool) (description? : Option String) : DataField :=
  let own := Naming.modelFieldName taken name
  { name := own
    hint := scope.hint typeName isList (!required)
    alias? := if own = name then none else some name
    required
    description? }

/-- The fields of a model. A response holds only what was selected, so none is required. -/
def modelFields (scope : TypeScope) (taken : List String) : List Field → List DataField
  | [] => []
  | f :: fs =>
    let d := dataField scope taken f.name f.typeName f.isList false f.description?
    d :: modelFields scope (d.name :: taken) fs

/-- The fields of an input. One that may not be null and has no default is required. -/
def inputFields (scope : TypeScope) (taken : List String) : List InputValue → List DataField
  | [] => []
  | a :: more =>
    let required := !a.isOptional && a.default?.isNone
    let d := dataField scope taken a.name a.typeName a.isList required a.description?
    d :: inputFields scope (d.name :: taken) more

/-- What a type comes to: its class, if it has one of its own, and what it refers to. -/
structure Description where
  output : Output
  references : List Wanted := []

/-- What a field of a model refers to; an empty selection below it is none. -/
def fieldReference (type : String) (selection? : Option Selection) (f : Field) : Wanted :=
  ⟨f.typeName, (Context.childSelection? selection? type f.name).filter (!·.isEmpty)⟩

/-- The class of an object or interface type. -/
def describeModel (ctx : Context) (package : String) (t : TypeDef)
    (selection? : Option Selection) : Description :=
  let choice := ctx.choice t.name selection?
  let referring := choice.fields.filter fun f => ctx.scope.isDataType f.typeName
  let made : DataClass :=
    { package
      name := t.name
      body := .model (modelFields ctx.scope [Naming.typenameField] choice.fields)
      imports := Text.sortedSet (choice.fields.flatMap fun f => ctx.scope.importsFor f.typeName)
      description? := t.description? }
  { output := { dataTypes := [made], warnings := choice.warnings }
    references := referring.map (fieldReference t.name selection?) }

/-- The class of an input type. -/
def describeInput (ctx : Context) (package : String) (t : TypeDef) : Description :=
  let referring := t.inputFields.filter fun a => ctx.scope.isDataType a.typeName
  let made : DataClass :=
    { package
      name := t.name
      body := .input (inputFields ctx.scope [] t.inputFields)
      imports := Text.sortedSet (ctx.argumentImports t.inputFields)
      description? := t.description? }
  { output := { dataTypes := [made] }
    references := referring.map fun a => ⟨a.typeName, none⟩ }

/-- The class of an enum type. -/
def describeEnum (package : String) (t : TypeDef) : Description :=
  let made : DataClass :=
    { package
      name := t.name
      body := .enum (t.values.map (·.name))
      description? := t.description? }
  { output := { dataTypes := [made] } }

/-- The members of a union type. -/
def describeUnion (ctx : Context) (package : String) (t : TypeDef)
    (selection? : Option Selection) : Description :=
  { output := { unions := [⟨package, t.name⟩] }
    references := (ctx.schema.unionMembers t.name).map fun m =>
      ⟨m.name, Context.fragmentSelection? selection? m.name⟩ }

/-- The class of a type. A scalar has none, and a union only those of its members. -/
def describe (ctx : Context) (package : String) (t : TypeDef) (selection? : Option Selection) :
    Description :=
  match t.kind with
  | .scalar => ⟨∅, []⟩
  | .union => describeUnion ctx package t selection?
  | .enum => describeEnum package t
  | .input => describeInput ctx package t
  | .object | .interface => describeModel ctx package t selection?

/-! ## All classes -/

/-- The types whose names are free in a package. -/
def unregistered (s : Schema) (package : String) (r : Naming.Registry) : Nat :=
  (s.types.filter fun t => !r.contains (package ++ "." ++ t.name)).length

theorem unregistered_lt {s : Schema} {package name : String} {r r' : Naming.Registry}
    {t : TypeDef} (ht : s.findType? name = some t)
    (hr : r.register? (package ++ "." ++ t.name) = some r') :
    unregistered s package r' < unregistered s package r := by
  rw [Naming.Registry.register?] at hr
  split at hr
  · cases hr
  · rename_i hfree
    cases hr
    have hcut : s.types.filter (fun u => !Naming.Registry.contains
          ⟨(package ++ "." ++ t.name) :: r.names⟩ (package ++ "." ++ u.name))
        = (s.types.filter fun u => !r.contains (package ++ "." ++ u.name)).filter
            fun u => package ++ "." ++ u.name ≠ package ++ "." ++ t.name := by
      rw [List.filter_filter]
      refine List.filter_congr fun u _ => ?_
      simp [Naming.Registry.contains]
    rw [unregistered, unregistered, hcut]
    refine List.length_filter_lt_length_iff_exists.mpr ⟨t, ?_, by simp⟩
    exact List.mem_filter.mpr ⟨Schema.findType?_mem ht, by simpa using hfree⟩

/-- Emits the types of a stack into a package, and all types that they refer to. -/
def emit (ctx : Context) (package : String) (stack : List Wanted) (r : Naming.Registry) :
    Output × Naming.Registry :=
  match stack with
  | [] => (∅, r)
  | w :: rest =>
    match _known : ctx.schema.findType? w.typeName with
    | none => emit ctx package rest r
    | some t =>
      if t.kind = .scalar then emit ctx package rest r
      else
        match _free : r.register? (package ++ "." ++ t.name) with
        | none => emit ctx package rest r
        | some r' =>
          let d := describe ctx package t w.selection?
          let (more, r'') := emit ctx package (d.references ++ rest) r'
          (d.output ++ more, r'')
termination_by (unregistered ctx.schema package r, stack.length)
decreasing_by
  · exact Prod.Lex.right _ (Nat.lt_succ_self _)
  · exact Prod.Lex.right _ (Nat.lt_succ_self _)
  · exact Prod.Lex.right _ (Nat.lt_succ_self _)
  · exact Prod.Lex.left _ _ (unregistered_lt _known _free)

/-- Emits types as part of a run; nothing, if the configuration asks for no data types. -/
def run (ctx : Context) (package : String) (stack : List Wanted) : Run Output := fun st =>
  if ctx.config.dataTypes then
    let (output, registry) := emit ctx package stack st.registry
    .ok output { st with registry }
  else .ok ∅ st

/-- Emits the classes that arguments, or fields without a selection, refer to. -/
def runReferenced (ctx : Context) (package : String) (typeNames : List String) : Run Output :=
  run ctx package ((typeNames.filter ctx.scope.isDataType).map fun name => ⟨name, none⟩)

end DataTypes

end ClientGen
