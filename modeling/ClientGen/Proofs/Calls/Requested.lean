import ClientGen.Proofs.Calls.Covered
import ClientGen.Proofs.Emission.Requested

/-!
# Requested data types over many calls

A call asks for data types in two packages: those of arguments in the shared one, those of the
positions of an example in the package of its operation. Whatever comes out of calls has been asked
for by one of them, also where others fail.

`Call.requested` states it of one call, and `History.requested_after` of any calls. So what comes
out are classes of types of the schema: `History.exists_isClass`.
-/

namespace ClientGen

open ClientGen.Projection

variable {ctx : Context} {demand : String → Wanted → Prop} {st st' : RunState} {o : Output}

section

variable (hdemand : Hereditary ctx demand)

include hdemand

/-! ## Root fields -/

lemma requested_of_emitQuery {kind : Document.OperationKind} {f : Field}
    (hasked : ∀ a ∈ f.arguments, demand ctx.config.typesNamespace ⟨a.typeName, none⟩)
    (h : emitQuery ctx kind f st = .ok o st') : o.Requested ctx demand := by
  rcases emitQuery_cases h with ⟨_, rfl, _⟩ | ⟨_, types, htypes, rfl⟩
  · exact .empty
  · exact (Output.Requested.of_none rfl rfl).append
      (requested_of_argumentTypes hdemand hasked htypes)

lemma requested_of_emitRootProjection {root : TypeDef} {f : Field}
    (hadmits : AdmitsField ctx demand root f)
    (h : emitRootProjection ctx root (ctx.example? (rootKind ctx root)) f st = .ok o st') :
    o.Requested ctx demand := by
  have hwalk := hadmits.walk
  unfold rootStart? at hwalk
  rcases emitRootProjection_cases h with ⟨_, rfl, _⟩ | ⟨target, hfind, htree⟩
  · exact .empty
  · rw [hfind] at hwalk
    exact requested_emitTree hdemand (hwalk _ rfl) htree

lemma requested_of_emitRootFields {root : TypeDef} {fs : List Field}
    (hadmits : ∀ f ∈ fs, AdmitsField ctx demand root f)
    (h : emitRootFields ctx (rootKind ctx root) root fs st = .ok o st') :
    o.Requested ctx demand :=
  holds_of_emitRootFields .empty .append
    (fun f hf => requested_of_emitQuery hdemand (hadmits f hf).arguments)
    (fun f hf => requested_of_emitRootProjection hdemand (hadmits f hf)) h

lemma requested_of_generateRoot {root : TypeDef} (hadmits : (Call.root root).Admitted ctx demand)
    (h : generateRoot ctx root st = .ok o st') : o.Requested ctx demand := by
  obtain ⟨_, made, hmade, rfl⟩ := generateRoot_of_ok h
  exact (Output.Requested.of_none rfl rfl).append
    (requested_of_emitRootFields hdemand hadmits hmade)

/-! ## Entities -/

lemma requested_of_emitEntityFragments {taken : List String} {ts : List TypeDef}
    {methods : List Method} (hadmits : ∀ t ∈ ts, Admits ctx demand none (.start t.name none))
    (h : emitEntityFragments ctx taken ts st = .ok (methods, o) st') : o.Requested ctx demand :=
  holds_of_emitEntityFragments .empty .append
    (fun t ht => requested_emitTree hdemand (hadmits t ht)) h

lemma requested_of_generateEntities {definitions : List TypeDef}
    (hadmits : (Call.entities definitions).Admitted ctx demand)
    (h : generateEntities ctx definitions st = .ok o st') : o.Requested ctx demand := by
  rcases generateEntities_cases h with ⟨_, rfl, _⟩ | ⟨_, methods, fragments, hfragments, rfl⟩
  · exact .empty
  · exact (Output.Requested.of_none rfl rfl).append
      (requested_of_emitEntityFragments hdemand hadmits hfragments)

/-! ## Calls -/

/-- What a call brings has been asked for. -/
theorem Call.requested {c : Call} (hadmits : c.Admitted ctx demand)
    (h : c.run ctx st = .ok o st') : o.Requested ctx demand := by
  cases c with
  | root type => exact requested_of_generateRoot hdemand hadmits h
  | entities definitions => exact requested_of_generateEntities hdemand hadmits h
  | dataType type selection? package? =>
    refine requested_of_run hdemand (fun w hw => ?_) h
    rw [List.mem_singleton.mp hw]
    exact hadmits
  | referenced typeName package? =>
    refine requested_of_run hdemand (fun w hw => ?_) h
    obtain ⟨name, hname, rfl⟩ := List.mem_map.mp hw
    obtain rfl := List.mem_singleton.mp (List.mem_filter.mp hname).1
    exact hadmits

/-- What comes out of any calls has been asked for. -/
theorem History.requested_after (cs : List Call) (hadmits : ∀ c ∈ cs, c.Admitted ctx demand) :
    (after ctx cs).total.Requested ctx demand :=
  total_after .empty .append fun c hc => Call.requested hdemand (hadmits c hc)

end

/-- Every data type that comes out of any calls is the class of a type of the schema. -/
lemma History.exists_isClass (cs : List Call) {d : DataClass}
    (hd : d ∈ (after ctx cs).total.dataTypes) :
    ∃ t selection?, ctx.schema.findType? d.name = some t
      ∧ DataTypes.IsClass ctx d.package t selection? d := by
  have hrequested : (after ctx cs).total.Requested ctx fun _ _ => True :=
    requested_after (fun _ _ _ _ _ _ _ => trivial) cs fun c _ => c.admitted_true
  obtain ⟨t, selection?, hfound, hclass, -⟩ := hrequested.dataTypes d hd
  exact ⟨t, selection?, hfound, hclass⟩

end ClientGen
