import ClientGen.Proofs.Calls.Hints
import ClientGen.Proofs.Generation.Trees

/-!
# What a run asks for

Every walk of a run asks for the data type of each position that it reaches, with what the example
selects there, in the package of the operation that it belongs to; and for the data types of
arguments, in the shared package. What these refer to is asked for in the same package.

* `Asks` collects all of it, from the schema, the configuration and the examples.
* `complete_of_generate` says that a run asks for nothing else.
-/

namespace ClientGen

open ClientGen.DataTypes ClientGen.Projection
open Relation (ReflTransGen)

variable {ctx : Context}

/-- Where the walks of a run start, each with the name of the operation whose example it follows. -/
inductive StartsWalk (ctx : Context) : Option String → Position → Prop where
  | field {root : TypeDef} {f : Field} {p : Position} (hroot : root ∈ rootTypes ctx.schema)
      (hf : f ∈ (rootFields ctx (rootKind ctx root) root).fields)
      (hp : rootStart? ctx root f = some p) : StartsWalk ctx (operationOf? ctx root) p
  | entity {t : TypeDef} (ht : t ∈ keyedTypes ctx (ctx.schema.typesOfKind .object)) :
      StartsWalk ctx none (.start t.name none)

/-- What a run asks for, and in which package. -/
inductive Asks (ctx : Context) : String → Wanted → Prop where
  | position {operation? : Option String} {p q : Position} (hp : StartsWalk ctx operation? p)
      (hq : ReflTransGen (Nested ctx) p q) :
      Asks ctx (operationPackage ctx.config operation?) ⟨q.typeName, q.selection?⟩
  | argument {operation? : Option String} {p q : Position} {f : Field} {a : InputValue}
      (hp : StartsWalk ctx operation? p) (hq : ReflTransGen (Nested ctx) p q)
      (hf : f ∈ fieldsAt ctx q) (ha : a ∈ f.arguments) :
      Asks ctx ctx.config.typesNamespace ⟨a.typeName, none⟩
  | rootArgument {root : TypeDef} {f : Field} {a : InputValue}
      (hroot : root ∈ rootTypes ctx.schema)
      (hf : f ∈ (rootFields ctx (rootKind ctx root) root).fields) (ha : a ∈ f.arguments) :
      Asks ctx ctx.config.typesNamespace ⟨a.typeName, none⟩
  | reference {package : String} {w v : Wanted} {t : TypeDef} (hw : Asks ctx package w)
      (ht : ctx.schema.findType? w.typeName = some t)
      (hv : v ∈ references ctx t w.selection?) : Asks ctx package v

lemma hereditary_asks (ctx : Context) : Hereditary ctx (Asks ctx) :=
  fun _ _ _ _ hw ht hv => .reference hw ht hv

lemma StartsWalk.admits {operation? : Option String} {p : Position}
    (h : StartsWalk ctx operation? p) : Admits ctx (Asks ctx) operation? p :=
  ⟨fun _ hq => .position h hq, fun _ hq _ hf _ ha => .argument h hq hf ha⟩

lemma Call.admitted_asks {c : Call} (h : c ∈ generationCalls ctx) : c.Admitted ctx (Asks ctx) := by
  rcases List.mem_append.mp h with h | h
  · obtain ⟨root, hroot, rfl⟩ := List.mem_map.mp h
    intro f hf
    exact ⟨fun a ha => .rootArgument hroot hf ha, fun p hp => (StartsWalk.field hroot hf hp).admits⟩
  · obtain rfl := List.mem_singleton.mp h
    intro t ht
    exact (StartsWalk.entity ht).admits

lemma Call.dotless_of_generationCalls (hnames : ctx.schema.Dotless) {c : Call}
    (h : c ∈ generationCalls ctx) : c.Dotless := by
  rcases List.mem_append.mp h with h | h
  · obtain ⟨root, _, rfl⟩ := List.mem_map.mp h
    trivial
  · obtain rfl := List.mem_singleton.mp h
    intro t ht
    exact hnames.type (List.mem_filter.mp ht).1

/-- A run covers its classes, with data types that it asks for. -/
theorem complete_of_generate (hdata : ctx.config.dataTypes = true) (hnames : ctx.schema.Dotless)
    {roots entities : Output} {mid st' : RunState}
    (hroots : generateRoots ctx (rootTypes ctx.schema) {} = .ok roots mid)
    (hentities : generateEntities ctx (ctx.schema.typesOfKind .object) mid = .ok entities st') :
    History.Complete ctx (Asks ctx) { state := st', total := roots ++ entities } := by
  have hafter := after_generationCalls hroots hentities
  have hcovered := History.covered_after hdata hnames (hereditary_asks ctx) (generationCalls ctx)
    (fun c hc => Call.dotless_of_generationCalls hnames hc) fun c hc => Call.admitted_asks hc
  have hconsistent := History.consistent_after ctx (generationCalls ctx)
  rw [hafter] at hcovered hconsistent
  have hnone : RunError.endlessFragments ∉ ([] : List RunError) := List.not_mem_nil
  exact ⟨hnames, (hcovered hnone).1, hconsistent, hnone⟩

/-! ## Without examples -/

section

variable (hexamples : ctx.examples = [])

include hexamples

lemma example?_eq_none (kind : Document.OperationKind) : ctx.example? kind = none := by
  unfold Context.example? ExampleDocument.find?
  rw [hexamples]
  rfl

lemma StartsWalk.selection?_eq_none {operation? : Option String} {p : Position}
    (h : StartsWalk ctx operation? p) : p.selection? = none := by
  cases h with
  | field hroot hf hp =>
    unfold rootStart? at hp
    rw [example?_eq_none hexamples] at hp
    obtain ⟨target, _, rfl⟩ := Option.map_eq_some_iff.mp hp
    rfl
  | entity ht => rfl

omit hexamples in
/-- Without a selection there is none further down the walk. -/
lemma selection?_eq_none_of_nested {p q : Position} (h : ReflTransGen (Nested ctx) p q)
    (hnone : p.selection? = none) : q.selection? = none := by
  induction h with
  | refl => exact hnone
  | tail _ hstep ih =>
    cases hstep with
    | descend h =>
      show Context.childSelection? _ _ _ = none
      rw [ih]
      rfl
    | narrow h =>
      show Context.fragmentSelection? _ _ = none
      rw [ih]
      rfl

/-- Without examples, everything is asked for without a selection. -/
theorem Asks.selection?_eq_none {package : String} {w : Wanted} (h : Asks ctx package w) :
    w.selection? = none := by
  induction h with
  | position hp hq => exact selection?_eq_none_of_nested hq (hp.selection?_eq_none hexamples)
  | argument => rfl
  | rootArgument => rfl
  | reference _ _ hv ih =>
    rw [ih] at hv
    exact selection?_of_mem_references hv

end

end ClientGen
