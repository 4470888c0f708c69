import ClientGen.Generation

/-!
# Calls on one context

What is asked for one after the other on the same context: the classes of a root type, those of
the entities, or data types. All calls share the names that have been given out. The outputs of
the calls that succeed are put together; a call that fails leaves its failure.

Main definition: `History.after`.
-/

namespace ClientGen

/-- A call on a context. The package of data types is the shared one, unless another is named. -/
inductive Call where
  /-- The query classes and projections of a root type. -/
  | root (type : TypeDef)
  /-- The projection of the entities among some types. -/
  | entities (definitions : List TypeDef)
  /-- The class of a type and of all that it refers to. -/
  | dataType (type : TypeDef) (selection? : Option Selection) (package? : Option String)
  /-- The class that an argument or field refers to, if there is one. -/
  | referenced (typeName : String) (package? : Option String)

namespace Call

/-- The package that a call asks for; an empty name asks for none. -/
def packageOf (ctx : Context) (package? : Option String) : String :=
  (package?.filter (· ≠ "")).getD ctx.config.typesNamespace

/-- What a call does. -/
def run (ctx : Context) : Call → Run Output
  | root type => generateRoot ctx type
  | entities definitions => generateEntities ctx definitions
  | dataType type selection? package? =>
    DataTypes.run ctx (packageOf ctx package?) [⟨type.name, selection?⟩]
  | referenced typeName package? =>
    DataTypes.runReferenced ctx (packageOf ctx package?) [typeName]

end Call

/-- Where some calls have led. -/
structure History where
  state : RunState := {}
  /-- The outputs of the calls that succeeded, put together. -/
  total : Output := ∅
  /-- Why the other calls failed. -/
  failures : List RunError := []

namespace History

/-- One more call. -/
def step (ctx : Context) (h : History) (c : Call) : History :=
  match c.run ctx h.state with
  | .ok output state => { h with state, total := h.total ++ output }
  | .error e state => { h with state, failures := h.failures ++ [e] }

/-- Where the calls lead, from a context on which nothing has been asked for. -/
def after (ctx : Context) (calls : List Call) : History :=
  calls.foldl (step ctx) {}

end History

end ClientGen
