import ClientGen.Generation
import ClientGen.Proofs.DataTypes.Worklist
import ClientGen.Proofs.Naming.Dotless

/-!
# Classes whose references are covered

Every class refers to data types: a data type through its fields, a query class and a method of a
projection through their parameters. A class is covered if everything that it refers to is
settled. As names are never taken back, a class that is covered stays so.

* `Output.Covered` states it of all classes of an output, together with what they are made from.
* `covered_of_run` says that a stack of data types is covered as soon as the stack is empty.
-/

namespace ClientGen

open ClientGen.DataTypes

variable {ctx : Context} {demand : String → Wanted → Prop} {r r' : Naming.Registry}

/-! ## Demands -/

/-- Where a type is asked for, so is everything that it refers to. -/
def Hereditary (ctx : Context) (demand : String → Wanted → Prop) : Prop :=
  ∀ package w t v, demand package w → ctx.schema.findType? w.typeName = some t →
    v ∈ references ctx t w.selection? → demand package v

lemma Hereditary.of_asked (h : Hereditary ctx demand) {package : String} {stack : List Wanted}
    (hstack : ∀ w ∈ stack, demand package w) {w : Wanted} (hw : Asked ctx stack w) :
    demand package w := by
  induction hw with
  | first hw => exact hstack _ hw
  | further _ ht hv ih => exact h _ _ _ _ ih ht hv

/-! ## Covered classes -/

/-- The class of a type that is asked for, all of whose references are settled. -/
def DataClass.Covered (ctx : Context) (demand : String → Wanted → Prop) (r : Naming.Registry)
    (d : DataClass) : Prop :=
  ∃ t selection?, ctx.schema.findType? d.name = some t ∧ IsClass ctx d.package t selection? d
    ∧ demand d.package ⟨d.name, selection?⟩
    ∧ ∀ w ∈ references ctx t selection?, Settled ctx d.package r w

/-- A union of the schema, all of whose members are settled. -/
def EmittedUnion.Covered (ctx : Context) (r : Naming.Registry) (u : EmittedUnion) : Prop :=
  ∃ t, ctx.schema.findType? u.name = some t ∧ t.kind = .union
    ∧ ∀ m ∈ ctx.schema.unionMembers u.name, Settled ctx u.package r ⟨m.name, none⟩

/-- The data types of some arguments are settled in the shared package. -/
def ArgumentsCovered (ctx : Context) (r : Naming.Registry) (arguments : List InputValue) : Prop :=
  ∀ a ∈ arguments, ctx.scope.isDataType a.typeName = true →
    Settled ctx ctx.config.typesNamespace r ⟨a.typeName, none⟩

/-- The query class of a field whose arguments are covered. -/
structure QueryClass.Covered (ctx : Context) (r : Naming.Registry) (q : QueryClass) : Prop where
  dotless : Dotless q.name
  field : ∃ root, ∃ f ∈ ctx.schema.fieldsOf root, q = queryClass ctx q.kind f
    ∧ ArgumentsCovered ctx r f.arguments

/-- A method of a class has the parameters of its field, and the arguments of the field are
covered. The method for a fragment has no parameters. -/
def Method.Covered (ctx : Context) (r : Naming.Registry) (type : String) (imports : List String)
    (m : Method) : Prop :=
  match m.action with
  | .select field | .descend field _ =>
    ∃ f ∈ ctx.schema.fieldsOf type, f.name = field
      ∧ m.parameters = (ctx.parameters Naming.methodNames false f.arguments).1
      ∧ ArgumentsCovered ctx r f.arguments ∧ ctx.argumentImports f.arguments ⊆ imports
  | .narrow _ _ => m.parameters = []

/-- The methods of a class are covered. -/
structure ProjectionClass.Covered (ctx : Context) (r : Naming.Registry) (c : ProjectionClass) :
    Prop where
  dotless : Dotless c.name
  methods : ∀ m ∈ c.methods, m.Covered ctx r c.schemaType c.imports

/-- All classes of an output are covered. -/
structure Output.Covered (ctx : Context) (demand : String → Wanted → Prop) (r : Naming.Registry)
    (o : Output) : Prop where
  queries : ∀ q ∈ o.queries, q.Covered ctx r
  projections : ∀ c ∈ o.projections, c.Covered ctx r
  dataTypes : ∀ d ∈ o.dataTypes, d.Covered ctx demand r
  unions : ∀ u ∈ o.unions, u.Covered ctx r

/-! ## More names -/

lemma DataClass.Covered.mono {d : DataClass} (h : d.Covered ctx demand r)
    (hkeeps : r.names ⊆ r'.names) : d.Covered ctx demand r' := by
  obtain ⟨t, selection?, hfound, hclass, hdemand, hsettled⟩ := h
  exact ⟨t, selection?, hfound, hclass, hdemand, fun w hw => (hsettled w hw).mono hkeeps⟩

lemma EmittedUnion.Covered.mono {u : EmittedUnion} (h : u.Covered ctx r)
    (hkeeps : r.names ⊆ r'.names) : u.Covered ctx r' := by
  obtain ⟨t, hfound, hkind, hsettled⟩ := h
  exact ⟨t, hfound, hkind, fun m hm => (hsettled m hm).mono hkeeps⟩

lemma ArgumentsCovered.mono {arguments : List InputValue} (h : ArgumentsCovered ctx r arguments)
    (hkeeps : r.names ⊆ r'.names) : ArgumentsCovered ctx r' arguments :=
  fun a ha hdata => (h a ha hdata).mono hkeeps

lemma QueryClass.Covered.mono {q : QueryClass} (h : q.Covered ctx r)
    (hkeeps : r.names ⊆ r'.names) : q.Covered ctx r' := by
  obtain ⟨hdotless, root, f, hf, hq, hcovered⟩ := h
  exact ⟨hdotless, root, f, hf, hq, hcovered.mono hkeeps⟩

lemma Method.Covered.mono {m : Method} {type : String} {imports imports' : List String}
    (h : m.Covered ctx r type imports) (hkeeps : r.names ⊆ r'.names)
    (himports : imports ⊆ imports') : m.Covered ctx r' type imports' := by
  unfold Method.Covered at h ⊢
  split <;> rename_i haction <;> rw [haction] at h
  · obtain ⟨f, hf, hname, hparameters, hcovered, hsub⟩ := h
    exact ⟨f, hf, hname, hparameters, hcovered.mono hkeeps, fun i hi => himports (hsub hi)⟩
  · obtain ⟨f, hf, hname, hparameters, hcovered, hsub⟩ := h
    exact ⟨f, hf, hname, hparameters, hcovered.mono hkeeps, fun i hi => himports (hsub hi)⟩
  · exact h

lemma ProjectionClass.Covered.mono {c : ProjectionClass} (h : c.Covered ctx r)
    (hkeeps : r.names ⊆ r'.names) : c.Covered ctx r' :=
  ⟨h.dotless, fun m hm => (h.methods m hm).mono hkeeps (List.Subset.refl _)⟩

namespace Output.Covered

variable {a b : Output}

lemma mono (h : a.Covered ctx demand r) (hkeeps : r.names ⊆ r'.names) :
    a.Covered ctx demand r' where
  queries := fun q hq => (h.queries q hq).mono hkeeps
  projections := fun c hc => (h.projections c hc).mono hkeeps
  dataTypes := fun d hd => (h.dataTypes d hd).mono hkeeps
  unions := fun u hu => (h.unions u hu).mono hkeeps

lemma append (ha : a.Covered ctx demand r) (hb : b.Covered ctx demand r) :
    (a ++ b).Covered ctx demand r where
  queries := fun q hq => (List.mem_append.mp hq).elim (ha.queries q) (hb.queries q)
  projections := fun c hc => (List.mem_append.mp hc).elim (ha.projections c) (hb.projections c)
  dataTypes := fun d hd => (List.mem_append.mp hd).elim (ha.dataTypes d) (hb.dataTypes d)
  unions := fun u hu => (List.mem_append.mp hu).elim (ha.unions u) (hb.unions u)

lemma warnings (ws : List ExcludedSelection) (r : Naming.Registry) :
    Output.Covered ctx demand r { warnings := ws } where
  queries := fun _ h => absurd h List.not_mem_nil
  projections := fun _ h => absurd h List.not_mem_nil
  dataTypes := fun _ h => absurd h List.not_mem_nil
  unions := fun _ h => absurd h List.not_mem_nil

lemma empty (r : Naming.Registry) : Output.Covered ctx demand r ∅ :=
  warnings [] r

lemma query {q : QueryClass} (h : q.Covered ctx r) :
    Output.Covered ctx demand r { queries := [q] } where
  queries := fun _ hp => List.mem_singleton.mp hp ▸ h
  projections := fun _ h => absurd h List.not_mem_nil
  dataTypes := fun _ h => absurd h List.not_mem_nil
  unions := fun _ h => absurd h List.not_mem_nil

lemma projection {c : ProjectionClass} (h : c.Covered ctx r) (ws : List ExcludedSelection) :
    Output.Covered ctx demand r { projections := [c], warnings := ws } where
  queries := fun _ h => absurd h List.not_mem_nil
  projections := fun _ hd => List.mem_singleton.mp hd ▸ h
  dataTypes := fun _ h => absurd h List.not_mem_nil
  unions := fun _ h => absurd h List.not_mem_nil

end Output.Covered

/-! ## Data types -/

section

variable {package : String} {stack : List Wanted} {visits : List Visit} {o : Output}

lemma mem_unions_describe {t : TypeDef} {selection? : Option Selection} {u : EmittedUnion}
    (h : u ∈ (describe ctx package t selection?).output.unions) :
    t.kind = .union ∧ u = ⟨package, t.name⟩ := by
  unfold describe at h
  cases hkind : t.kind with
  | union =>
    rw [hkind] at h
    exact ⟨rfl, List.mem_singleton.mp h⟩
  | object | interface | enum | input | scalar =>
    rw [hkind] at h
    cases h

/-- Once a worklist has come to its end, everything that it has brought is covered. -/
lemma covered_of_trace (hdemand : Hereditary ctx demand)
    (hstack : ∀ w ∈ stack, demand package w) (h : Trace ctx package stack r visits o r') :
    o.Covered ctx demand r' := by
  constructor
  · rw [h.queries]
    exact fun _ hq => absurd hq List.not_mem_nil
  · rw [h.projections]
    exact fun _ hc => absurd hc List.not_mem_nil
  · intro d hd
    rw [h.dataTypes] at hd
    obtain ⟨v, hv, hd⟩ := List.mem_flatMap.mp hd
    obtain ⟨_, hclass⟩ := isClass_of_mem hd
    have hpackage := hclass.inPackage
    subst hpackage
    have hasked := hdemand.of_asked hstack (h.asked v hv)
    rw [← hclass.sameName] at hasked
    refine ⟨v.type, v.selection?, ?_, hclass, hasked, h.closed v hv⟩
    rw [hclass.sameName]
    exact (h.known v hv).1
  · intro u hu
    rw [h.unions] at hu
    obtain ⟨v, hv, hu⟩ := List.mem_flatMap.mp hu
    obtain ⟨hkind, rfl⟩ := mem_unions_describe hu
    refine ⟨v.type, (h.known v hv).1, hkind, fun m hm => ?_⟩
    -- what settles a reference is its type alone
    have hsettled := h.closed v hv _ (mem_references_of_member hkind hm v.selection?)
    exact hsettled

/-- Emitting data types covers what comes out and settles what was asked for. -/
theorem covered_of_run (hdata : ctx.config.dataTypes = true) (hdemand : Hereditary ctx demand)
    (hstack : ∀ w ∈ stack, demand package w) {st st' : RunState}
    (h : DataTypes.run ctx package stack st = .ok o st') :
    o.Covered ctx demand st'.registry ∧ (∀ w ∈ stack, Settled ctx package st'.registry w)
      ∧ st'.shortener = st.shortener := by
  unfold DataTypes.run at h
  rw [if_pos hdata] at h
  cases h
  obtain ⟨visits, htrace⟩ := exists_trace ctx package stack st.registry
  exact ⟨covered_of_trace hdemand hstack htrace, htrace.settled, rfl⟩

end

end ClientGen
