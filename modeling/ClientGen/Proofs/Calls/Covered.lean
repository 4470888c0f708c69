import ClientGen.Proofs.Calls.Names
import ClientGen.Proofs.Emission.Covered

/-!
# Covered classes over many calls

A call asks for the data types of what it makes, or for data types by themselves. Either way what
comes out of it is covered when it returns, and what earlier calls have brought stays covered.

* `Call.Admitted` collects what a call asks for.
* `Call.covers` says that a call covers what it brings, and `History.covered_after` that any calls
  do.
-/

namespace ClientGen

open ClientGen.Projection

variable {ctx : Context} {demand : String → Wanted → Prop} {st st' : RunState} {o : Output}

/-! ## What calls ask for -/

/-- What the classes of a root field ask for is in demand. -/
structure AdmitsField (ctx : Context) (demand : String → Wanted → Prop) (root : TypeDef)
    (f : Field) : Prop where
  arguments : ∀ a ∈ f.arguments, demand ctx.config.typesNamespace ⟨a.typeName, none⟩
  walk : ∀ p, rootStart? ctx root f = some p →
    Admits ctx demand ((ctx.example? (rootKind ctx root)).bind (·.name?)) p

namespace Call

/-- What a call asks for is in demand. -/
def Admitted (ctx : Context) (demand : String → Wanted → Prop) : Call → Prop
  | root type => ∀ f ∈ (rootFields ctx (rootKind ctx type) type).fields, AdmitsField ctx demand type f
  | entities definitions =>
    ∀ t ∈ keyedTypes ctx definitions, Admits ctx demand none (.start t.name none)
  | dataType type selection? package? => demand (packageOf ctx package?) ⟨type.name, selection?⟩
  | referenced typeName package? => demand (packageOf ctx package?) ⟨typeName, none⟩

lemma admitted_true (c : Call) : c.Admitted ctx fun _ _ => True := by
  have hadmits : ∀ operation? p, Admits ctx (fun _ _ => True) operation? p :=
    fun _ _ => ⟨fun _ _ => trivial, fun _ _ _ _ _ _ => trivial⟩
  cases c with
  | root type => exact fun f _ => ⟨fun _ _ => trivial, fun p _ => hadmits _ p⟩
  | entities definitions => exact fun t _ => hadmits none _
  | dataType type selection? package? => trivial
  | referenced typeName package? => trivial

/-- The names of the types that a call names by their definitions have no dot. -/
def Dotless : Call → Prop
  | entities definitions => ∀ t ∈ definitions, ClientGen.Dotless t.name
  | _ => True

end Call

/-- The root fields that are generated are fields of the root type. -/
lemma mem_fieldsOf_of_mem_rootFields {kind : Document.OperationKind} {root : TypeDef} {f : Field}
    (h : f ∈ (rootFields ctx kind root).fields) : f ∈ ctx.schema.fieldsOf root.name := by
  have hf : f ∈ ctx.config.filterOperations kind (ctx.schema.fieldsOf root.name) :=
    Config.mem_of_mem_selectFields h
  unfold Config.filterOperations at hf
  split at hf
  · exact hf
  · exact (List.mem_filter.mp hf).1

/-! ## Root fields -/

section

variable (hdata : ctx.config.dataTypes = true) (hnames : ctx.schema.Dotless)
  (hdemand : Hereditary ctx demand)

include hdata hnames hdemand

lemma covers_emitQuery {kind : Document.OperationKind} {root : String} {f : Field}
    (hf : f ∈ ctx.schema.fieldsOf root)
    (hasked : ∀ a ∈ f.arguments, demand ctx.config.typesNamespace ⟨a.typeName, none⟩)
    (hshort : st.shortener.Dotless) (h : emitQuery ctx kind f st = .ok o st') :
    Covers ctx demand st o st' := by
  rcases emitQuery_cases h with ⟨_, rfl, rfl⟩ | ⟨_, types, htypes, rfl⟩
  · exact .empty hshort
  · -- to give out a name is to keep all short forms
    let ready : RunState :=
      { st with registry := ⟨clientName ctx (queryName f.name) :: st.registry.names⟩ }
    have hready : ready.shortener.Dotless := hshort
    obtain ⟨hcovers, hcovered⟩ := covers_of_argumentTypes hdata hdemand hasked hready htypes
    have hname : ClientGen.Dotless (Text.capitalized f.name ++ "GraphQLQuery") :=
      (hnames.field hf).capitalized.append (by decide)
    have hquery : (queryClass ctx kind f).Covered ctx st'.registry :=
      ⟨hname, root, f, hf, rfl, hcovered⟩
    exact ⟨(Output.Covered.query hquery).append hcovers.covered,
      fun _ hn => hcovers.keeps (List.mem_cons_of_mem _ hn), hcovers.dotless⟩

lemma covers_emitRootProjection {root : TypeDef} {f : Field}
    (hf : f ∈ ctx.schema.fieldsOf root.name) (hadmits : AdmitsField ctx demand root f)
    (hshort : st.shortener.Dotless)
    (h : emitRootProjection ctx root (ctx.example? (rootKind ctx root)) f st = .ok o st') :
    Covers ctx demand st o st' := by
  have hwalk := hadmits.walk
  unfold rootStart? at hwalk
  rcases emitRootProjection_cases h with ⟨_, rfl, rfl⟩ | ⟨target, hfind, htree⟩
  · exact .empty hshort
  · rw [hfind] at hwalk
    have hstem : ClientGen.Dotless (rootPlan f.name).stem := (hnames.field hf).capitalized
    have hname : ClientGen.Dotless (rootPlan f.name).name := hstem.append (by decide)
    have hstart := hwalk (.start target.name
      (rootSelection? (ctx.example? (rootKind ctx root)) root.name f.name)) rfl
    exact covers_emitTree hdata hnames hdemand hstart hname hstem hshort htree

lemma covers_emitRootFields {root : TypeDef} {fs : List Field}
    (hfs : ∀ f ∈ fs, f ∈ ctx.schema.fieldsOf root.name)
    (hadmits : ∀ f ∈ fs, AdmitsField ctx demand root f) (hshort : st.shortener.Dotless)
    (h : emitRootFields ctx (rootKind ctx root) root fs st = .ok o st') :
    Covers ctx demand st o st' := by
  induction fs generalizing st o st' with
  | nil =>
    obtain ⟨rfl, rfl⟩ := Run.pure_eq_ok.mp h
    exact .empty hshort
  | cons f fs ih =>
    obtain ⟨query, asked, projection, grown, more, hquery, hprojection, hmore, rfl⟩ :=
      emitRootFields_cons h
    have hf := hfs f List.mem_cons_self
    have hfirst := hadmits f List.mem_cons_self
    have hasked := covers_emitQuery hdata hnames hdemand hf hfirst.arguments hshort hquery
    have hgrown := covers_emitRootProjection hdata hnames hdemand hf hfirst hasked.dotless
      hprojection
    have hrest := ih (fun g hg => hfs g (List.mem_cons_of_mem _ hg))
      (fun g hg => hadmits g (List.mem_cons_of_mem _ hg)) hgrown.dotless hmore
    exact (hasked.append hgrown).append hrest

lemma covers_generateRoot {root : TypeDef} (hadmits : (Call.root root).Admitted ctx demand)
    (hshort : st.shortener.Dotless) (h : generateRoot ctx root st = .ok o st') :
    Covers ctx demand st o st' := by
  obtain ⟨_, made, hmade, rfl⟩ := generateRoot_of_ok h
  have hcovers := covers_emitRootFields hdata hnames hdemand
    (fun f hf => mem_fieldsOf_of_mem_rootFields hf) hadmits hshort hmade
  exact ⟨(Output.Covered.warnings _ _).append hcovers.covered, hcovers.keeps, hcovers.dotless⟩

/-! ## Entities -/

/-- The methods of the federation root are for fragments, which have no parameters. -/
lemma covers_emitEntityFragments {taken : List String} {ts : List TypeDef} {methods : List Method}
    (hdotless : ∀ t ∈ ts, ClientGen.Dotless t.name)
    (hadmits : ∀ t ∈ ts, Admits ctx demand none (.start t.name none))
    (hshort : st.shortener.Dotless)
    (h : emitEntityFragments ctx taken ts st = .ok (methods, o) st') :
    Covers ctx demand st o st' ∧ ∀ m ∈ methods, m.Covered ctx st'.registry entityUnion [] := by
  induction ts generalizing taken methods st o st' with
  | nil =>
    obtain ⟨rfl, rfl, rfl⟩ := emitEntityFragments_nil h
    exact ⟨.empty hshort, fun _ hm => absurd hm List.not_mem_nil⟩
  | cons t ts ih =>
    obtain ⟨made, grown, others, more, hmade, hmore, rfl, rfl⟩ := emitEntityFragments_cons h
    have hstart : ClientGen.Dotless "Entities" := by decide
    have hstem : ClientGen.Dotless (keyPlan t.name).stem :=
      (hstart.append (hdotless t List.mem_cons_self).capitalized).append (by decide)
    have hname : ClientGen.Dotless (keyPlan t.name).name := dotless_classOfStem hstem
    have hfirst := covers_emitTree hdata hnames hdemand (hadmits t List.mem_cons_self) hname hstem
      hshort hmade
    obtain ⟨hrest, hmethods⟩ := ih (fun u hu => hdotless u (List.mem_cons_of_mem _ hu))
      (fun u hu => hadmits u (List.mem_cons_of_mem _ hu)) hfirst.dotless hmore
    refine ⟨hfirst.append hrest, fun m hm => ?_⟩
    rcases List.mem_cons.mp hm with rfl | hm
    · exact rfl
    · exact hmethods m hm

lemma covers_generateEntities {definitions : List TypeDef}
    (hdotless : ∀ t ∈ definitions, ClientGen.Dotless t.name)
    (hadmits : (Call.entities definitions).Admitted ctx demand) (hshort : st.shortener.Dotless)
    (h : generateEntities ctx definitions st = .ok o st') : Covers ctx demand st o st' := by
  rcases generateEntities_cases h with ⟨_, rfl, rfl⟩ | ⟨_, methods, fragments, hfragments, rfl⟩
  · exact .empty hshort
  · let ready : RunState :=
      { st with registry := ⟨clientName ctx entitiesRoot :: st.registry.names⟩ }
    have hready : ready.shortener.Dotless := hshort
    obtain ⟨hcovers, hmethods⟩ := covers_emitEntityFragments hdata hnames hdemand
      (fun t ht => hdotless t (List.mem_filter.mp ht).1) hadmits hready hfragments
    have hname : ClientGen.Dotless entitiesRoot := by decide
    have hroot : (entitiesClass ctx methods).Covered ctx st'.registry := ⟨hname, hmethods⟩
    exact ⟨(Output.Covered.projection hroot []).append hcovers.covered,
      fun _ hn => hcovers.keeps (List.mem_cons_of_mem _ hn), hcovers.dotless⟩

/-! ## Calls -/

/-- A call that returns covers what it brings. -/
theorem Call.covers {c : Call} (hdotless : c.Dotless) (hadmits : c.Admitted ctx demand)
    (hshort : st.shortener.Dotless) (h : c.run ctx st = .ok o st') :
    Covers ctx demand st o st' := by
  cases c with
  | root type => exact covers_generateRoot hdata hnames hdemand hadmits hshort h
  | entities definitions =>
    exact covers_generateEntities hdata hnames hdemand hdotless hadmits hshort h
  | dataType type selection? package? =>
    refine covers_of_run hdata hdemand (fun w hw => ?_) hshort h
    rw [List.mem_singleton.mp hw]
    exact hadmits
  | referenced typeName package? =>
    refine covers_of_run hdata hdemand (fun w hw => ?_) hshort h
    obtain ⟨name, hname, rfl⟩ := List.mem_map.mp hw
    obtain rfl := List.mem_singleton.mp (List.mem_filter.mp hname).1
    exact hadmits

/-- Whatever calls there have been, as long as all of them have come back, all classes that have
come out are covered. -/
theorem History.covered_after (cs : List Call) (hdotless : ∀ c ∈ cs, c.Dotless)
    (hadmits : ∀ c ∈ cs, c.Admitted ctx demand)
    (hreturned : .endlessFragments ∉ (after ctx cs).failures) :
    (after ctx cs).total.Covered ctx demand (after ctx cs).state.registry
      ∧ (after ctx cs).state.shortener.Dotless := by
  induction cs using List.reverseRecOn with
  | nil => exact ⟨.empty _, Naming.Shortener.dotless_start⟩
  | append_singleton cs c ih =>
    rw [after_concat] at hreturned ⊢
    unfold step at hreturned ⊢
    have hbefore := ih (fun d hd => hdotless d (List.mem_append_left _ hd))
      (fun d hd => hadmits d (List.mem_append_left _ hd))
    have hmem : c ∈ cs ++ [c] := List.mem_append_right _ (List.mem_singleton.mpr rfl)
    cases hrun : c.run ctx (after ctx cs).state with
    | ok made st' =>
      rw [hrun] at hreturned
      obtain ⟨hcovered, hshort⟩ := hbefore hreturned
      have hcovers := Call.covers hdata hnames hdemand (hdotless c hmem) (hadmits c hmem) hshort hrun
      exact ⟨(hcovered.mono hcovers.keeps).append hcovers.covered, hcovers.dotless⟩
    | error e st' =>
      rw [hrun] at hreturned
      obtain ⟨hearlier, hnow⟩ := not_or.mp (fun hor => hreturned (List.mem_append.mpr hor))
      cases e with
      | endlessFragments => exact (hnow (List.mem_singleton.mpr rfl)).elim
      | schema e =>
        -- the schema is looked at before anything is given out
        obtain rfl := Call.state_of_schemaError hrun
        exact hbefore hearlier

end

end ClientGen
