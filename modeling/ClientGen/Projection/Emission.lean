import ClientGen.DataTypes
import ClientGen.Projection.Tree

/-!
# Projection classes

The classes of a projection tree, one for each position. A class is named after the fields and
fragments that lead to it; where that name is given out already, underscores are added before
`Projection`. The arguments of its fields and the type at its position bring their data types
with them.

Main definitions: `emitClass`, the class of a position with all below it; `emitBody`, the
methods of a class and the classes that they return.
-/

namespace ClientGen.Projection

/-! ## Names of classes -/

/-- The name of a class from its stem. -/
def classOfStem (stem : String) : String :=
  stem ++ "Projection"

/-- The qualified name of a class of the client package. -/
def clientName (ctx : Context) (name : String) : String :=
  ctx.config.clientNamespace ++ "." ++ name

/-- The stem, with underscores until the name of its class is free. -/
def freeStem (ctx : Context) (r : Naming.Registry) (stem : String) : String :=
  Naming.firstFree (fun s => r.contains (clientName ctx (classOfStem s))) r.size stem

/-- A free stem, as a part of a run. -/
def claimStem (ctx : Context) (stem : String) : Run String := fun st =>
  .ok (freeStem ctx st.registry stem) st

/-- Gives out the name of a class of the client package, and says whether it was free. -/
def registerClass (ctx : Context) (name : String) : Run Bool := fun st =>
  match st.registry.register? (clientName ctx name) with
  | none => .ok false st
  | some registry => .ok true { st with registry }

/-- The short form of a stem. -/
def shortenStem (stem : String) : Run String := fun st =>
  let (short, shortener) := st.shortener.shorten stem
  .ok short { st with shortener }

/-! ## Parts of a class -/

/-- The methods of a class with what they bring. -/
structure Members where
  methods : List Method := []
  imports : List String := []
  /-- The classes that the methods return, and all below them. -/
  below : Output := ∅
  /-- The data types of the arguments. -/
  arguments : Output := ∅

/-- The members with one more in front. -/
def Members.cons (method : Method) (imports : List String) (below arguments : Output)
    (rest : Members) : Members :=
  ⟨method :: rest.methods, imports ++ rest.imports, below ++ rest.below,
    arguments ++ rest.arguments⟩

/-- A class that is about to be made. -/
structure ClassPlan where
  stem : String
  name : String
  base : ProjectionBase
  parent? : Option String := none
  root? : Option String := none
  includeTypename : Bool := false

/-- What the members of a class need to know of it. -/
structure Frame where
  className : String
  rootClass? : Option String
  access : RootAccess
  /-- The stem that the stems of its sub-projections and fragments begin with. -/
  childStem : String

namespace ClassPlan

/-- The root of the tree that the class is in; a root is its own. -/
def rootClass? (plan : ClassPlan) : Option String :=
  match plan.base with
  | .root => some plan.name
  | _ => plan.root?

/-- How the class reaches its root. -/
def access (plan : ClassPlan) : RootAccess :=
  match plan.base with
  | .root => .itself
  | _ => .lookup

/-- What the members of the class need to know. -/
def frame (plan : ClassPlan) (childStem : String) : Frame :=
  { className := plan.name
    rootClass? := plan.rootClass?
    access := plan.access
    childStem }

/-- The stem that the stems below the class begin with. A root keeps its own. -/
def childStem (ctx : Context) (plan : ClassPlan) : Run String :=
  if plan.base ≠ .root && ctx.config.shortNames then shortenStem plan.stem else pure plan.stem

/-- The class itself. -/
def made (ctx : Context) (plan : ClassPlan) (head : Head) (members : Members) :
    ProjectionClass :=
  { package := ctx.config.clientNamespace
    name := plan.name
    schemaType := head.type.name
    base := plan.base
    parent? := plan.parent?
    root? := plan.rootClass?
    includeTypename := plan.includeTypename
    methods := members.methods
    imports := Text.sortedSet members.imports
    description? := head.type.description? }

/-- The class with all that comes with it. Data types come last: those below first, then those
of the position, then those of the arguments. -/
def output (ctx : Context) (plan : ClassPlan) (head : Head) (members : Members) (own : Output) :
    Output :=
  { projections := [plan.made ctx head members], warnings := head.warnings }
    ++ members.below ++ own ++ members.arguments

end ClassPlan

namespace Frame

/-- The class below a field. -/
def subPlan (frame : Frame) (stem : String) : ClassPlan :=
  { stem
    name := classOfStem stem
    base := .sub
    parent? := some frame.className
    root? := frame.rootClass? }

/-- The class of a fragment. -/
def fragmentPlan (frame : Frame) (stem : String) : ClassPlan :=
  { stem
    name := classOfStem stem
    base := .fragment
    parent? := some frame.className
    root? := frame.rootClass?
    includeTypename := true }

/-- The method for a field. -/
def fieldMethod (ctx : Context) (name returns : String) (action : MethodAction) (f : Field) :
    Method :=
  { name
    returns
    action
    parameters := (ctx.parameters Naming.methodNames false f.arguments).1
    description? := f.description? }

/-- The method for a field without sub-fields, which returns the class itself. -/
def leafMethod (ctx : Context) (frame : Frame) (name : String) (f : Field) : Method :=
  fieldMethod ctx name frame.className (.select f.name) f

/-- The method for a field with a class below it. -/
def branchMethod (ctx : Context) (frame : Frame) (name : String) (f : Field) (stem : String) :
    Method :=
  fieldMethod ctx name (classOfStem stem) (.descend f.name frame.access) f

/-- The method for a fragment. -/
def fragmentMethod (frame : Frame) (name type stem : String) : Method :=
  { name, returns := classOfStem stem, action := .narrow type frame.access }

end Frame

/-- The data types that the arguments of a field refer to. -/
def argumentTypes (ctx : Context) (arguments : List InputValue) : Run Output :=
  DataTypes.runReferenced ctx ctx.config.typesNamespace (arguments.map (·.typeName))

/-- The data types of the type at a position. A union has none of its own. -/
def ownTypes (ctx : Context) (operation? : Option String) (head : Head) : Run Output :=
  match head.type.kind with
  | .object | .interface =>
    DataTypes.run ctx (DataTypes.operationPackage ctx.config operation?)
      [⟨head.type.name, head.selection?⟩]
  | _ => pure ∅

/-! ## Emission -/

/-- Makes the class of a position and all below it, unless the name of the class is given
out. -/
def emitClass (ctx : Context) (operation? : Option String) (plan : ClassPlan) (head : Head)
    (emitMembers : Frame → Run Members) : Run Output := do
  if ← registerClass ctx plan.name then
    let stem ← plan.childStem ctx
    let members ← emitMembers (plan.frame stem)
    let own ← ownTypes ctx operation? head
    return plan.output ctx head members own
  else return ∅

/-- Makes the methods of a class, whose names are not taken, and the classes below it. -/
def emitBody (ctx : Context) (operation? : Option String) (frame : Frame) (taken : List String) :
    Body → Run Members
  | .done => pure {}
  | .endless => throw .endlessFragments
  | .leaf f rest => do
    let arguments ← argumentTypes ctx f.arguments
    let name := Naming.memberName taken f.name
    let more ← emitBody ctx operation? frame (name :: taken) rest
    return more.cons (frame.leafMethod ctx name f) (ctx.argumentImports f.arguments) ∅ arguments
  | .branch f target below rest => do
    let arguments ← argumentTypes ctx f.arguments
    let name := Naming.memberName taken f.name
    let stem ← claimStem ctx (frame.childStem ++ "_" ++ Text.capitalized f.name)
    let child ← emitClass ctx operation? (frame.subPlan stem) target fun childFrame =>
      emitBody ctx operation? childFrame Naming.projectionNames below
    let more ← emitBody ctx operation? frame (name :: taken) rest
    return more.cons (frame.branchMethod ctx name f stem) (ctx.argumentImports f.arguments) child
      arguments
  | .fragment target below rest => do
    let stem ← claimStem ctx (frame.childStem ++ "_" ++ Text.capitalized target.type.name)
    let name := Naming.fragmentMethodName taken target.type.name
    let child ← emitClass ctx operation? (frame.fragmentPlan stem) target fun childFrame =>
      emitBody ctx operation? childFrame Naming.projectionNames below
    let more ← emitBody ctx operation? frame (name :: taken) rest
    return more.cons (frame.fragmentMethod name target.type.name stem) [] child ∅

/-- Makes the projection of a position that the walk starts from, and all below it. -/
def emitTree (ctx : Context) (operation? : Option String) (plan : ClassPlan) (t : TypeDef)
    (selection? : Option Selection) : Run Output :=
  emitClass ctx operation? plan (headAt ctx t selection?) fun frame =>
    emitBody ctx operation? frame Naming.projectionNames
      (Body.grow ctx (.start t.name selection?) [t.name])

end ClientGen.Projection
