import ClientGen.Proofs.Accounts

/-!
# What a worklist of types comes to

Emitting a stack of types visits types of the schema, one after the other, and describes each.
A type is visited because it is on the stack, or because a type that is visited refers to it; and
when the stack is empty, everything that any of them refers to is given out.

* `Asked` is what the types on a stack lead to.
* `Trace` says which visits a worklist has made, and `exists_trace` finds them in `emit`.
-/

namespace ClientGen

/-- The kinds of types that have a class among the data types. -/
def TypeKind.hasClass : TypeKind → Bool
  | .object | .interface | .enum | .input => true
  | .union | .scalar => false

namespace DataTypes

variable {ctx : Context} {package : String}

/-! ## Classes -/

/-- The class that a type comes to in a package, with a selection or without one. -/
structure IsClass (ctx : Context) (package : String) (t : TypeDef) (selection? : Option Selection)
    (d : DataClass) : Prop where
  inPackage : d.package = package
  sameName : d.name = t.name
  described : (describe ctx package t selection?).output.dataTypes = [d]

lemma exists_isClass (ctx : Context) (package : String) {t : TypeDef}
    (h : t.kind.hasClass = true) (selection? : Option Selection) :
    ∃ d, IsClass ctx package t selection? d := by
  have hdescribe : ∀ d, (describe ctx package t selection?).output.dataTypes = [d] →
      d.package = package → d.name = t.name → ∃ d, IsClass ctx package t selection? d :=
    fun d hd hpackage hname => ⟨d, hpackage, hname, hd⟩
  unfold describe at hdescribe
  cases hkind : t.kind with
  | union | scalar =>
    rw [hkind] at h
    cases h
  | object | interface | enum | input =>
    rw [hkind] at hdescribe
    exact hdescribe _ rfl rfl rfl

lemma dataTypes_describe_eq_nil {t : TypeDef} (h : t.kind.hasClass = false)
    (selection? : Option Selection) :
    (describe ctx package t selection?).output.dataTypes = [] := by
  unfold describe
  cases hkind : t.kind with
  | union | scalar => rfl
  | object | interface | enum | input =>
    rw [hkind] at h
    cases h

/-- What comes out for a type is its class, if it has one. -/
lemma isClass_of_mem {t : TypeDef} {selection? : Option Selection} {d : DataClass}
    (h : d ∈ (describe ctx package t selection?).output.dataTypes) :
    t.kind.hasClass = true ∧ IsClass ctx package t selection? d := by
  by_cases hclass : t.kind.hasClass = true
  · obtain ⟨e, he⟩ := exists_isClass ctx package hclass selection?
    rw [he.described] at h
    obtain rfl := List.mem_singleton.mp h
    exact ⟨hclass, he⟩
  · rw [dataTypes_describe_eq_nil (by simpa using hclass)] at h
    cases h

/-! ## References -/

/-- What the class of a type refers to, or the members of a union. -/
def references (ctx : Context) (t : TypeDef) (selection? : Option Selection) : List Wanted :=
  (describe ctx "" t selection?).references

lemma references_describe (ctx : Context) (package : String) (t : TypeDef)
    (selection? : Option Selection) :
    (describe ctx package t selection?).references = references ctx t selection? := by
  unfold references describe
  cases t.kind <;> rfl

/-- A chosen field of an object or interface type is referred to. -/
lemma mem_references_of_field {t : TypeDef} {f : Field} {selection? : Option Selection}
    (hkind : t.kind = .object ∨ t.kind = .interface)
    (hf : f ∈ (ctx.choice t.name selection?).fields)
    (hdata : ctx.scope.isDataType f.typeName = true) :
    fieldReference t.name selection? f ∈ references ctx t selection? := by
  have hmem : fieldReference t.name selection? f
      ∈ (describeModel ctx "" t selection?).references :=
    List.mem_map_of_mem (List.mem_filter.mpr ⟨hf, hdata⟩)
  unfold references describe
  rcases hkind with hkind | hkind <;> rw [hkind] <;> exact hmem

/-- A field of an input type is referred to. -/
lemma mem_references_of_inputField {t : TypeDef} {a : InputValue} (hkind : t.kind = .input)
    (ha : a ∈ t.inputFields) (hdata : ctx.scope.isDataType a.typeName = true)
    (selection? : Option Selection) : ⟨a.typeName, none⟩ ∈ references ctx t selection? := by
  unfold references describe
  rw [hkind]
  exact List.mem_map_of_mem (List.mem_filter.mpr ⟨ha, hdata⟩)

/-- A member of a union is referred to. -/
lemma mem_references_of_member {t m : TypeDef} (hkind : t.kind = .union)
    (hm : m ∈ ctx.schema.unionMembers t.name) (selection? : Option Selection) :
    ⟨m.name, Context.fragmentSelection? selection? m.name⟩ ∈ references ctx t selection? := by
  unfold references describe
  rw [hkind]
  exact List.mem_map_of_mem (f := fun u : TypeDef =>
    (⟨u.name, Context.fragmentSelection? selection? u.name⟩ : Wanted)) hm

/-- Without a selection there is none below either. -/
lemma selection?_of_mem_references {t : TypeDef} {w : Wanted} (h : w ∈ references ctx t none) :
    w.selection? = none := by
  unfold references describe at h
  cases hkind : t.kind with
  | scalar | enum =>
    rw [hkind] at h
    cases h
  | object | interface | input | union =>
    rw [hkind] at h
    obtain ⟨f, _, rfl⟩ := List.mem_map.mp h
    rfl

/-- What a stack of types leads to, along the references. -/
inductive Asked (ctx : Context) (stack : List Wanted) : Wanted → Prop where
  | first {w : Wanted} (hw : w ∈ stack) : Asked ctx stack w
  | further {w v : Wanted} {t : TypeDef} (hw : Asked ctx stack w)
      (ht : ctx.schema.findType? w.typeName = some t)
      (hv : v ∈ references ctx t w.selection?) : Asked ctx stack v

lemma Asked.of_forall {stack stack' : List Wanted} {w : Wanted}
    (h : ∀ v ∈ stack, Asked ctx stack' v) (hw : Asked ctx stack w) : Asked ctx stack' w := by
  induction hw with
  | first hw => exact h _ hw
  | further _ ht hv ih => exact .further ih ht hv

lemma Asked.mono {stack stack' : List Wanted} {w : Wanted} (h : stack ⊆ stack')
    (hw : Asked ctx stack w) : Asked ctx stack' w :=
  hw.of_forall fun _ hv => .first (h hv)

/-- Nothing is left to do for a type: it is unknown or a scalar, or its name is given out. -/
def Settled (ctx : Context) (package : String) (r : Naming.Registry) (w : Wanted) : Prop :=
  ∀ t, ctx.schema.findType? w.typeName = some t → t.kind ≠ .scalar →
    package ++ "." ++ t.name ∈ r.names

lemma Settled.mono {r r' : Naming.Registry} {w : Wanted} (h : Settled ctx package r w)
    (hkeeps : r.names ⊆ r'.names) : Settled ctx package r' w :=
  fun t ht hkind => hkeeps (h t ht hkind)

/-! ## Visits -/

/-- A type that is described, with the selection that shapes its class. -/
structure Visit where
  type : TypeDef
  selection? : Option Selection

/-- The description of a visited type. -/
def Visit.output (ctx : Context) (package : String) (v : Visit) : Output :=
  (describe ctx package v.type v.selection?).output

/-- The visits of a worklist, in order: what they bring, and what is given out for them. -/
structure Trace (ctx : Context) (package : String) (stack : List Wanted) (r : Naming.Registry)
    (visits : List Visit) (o : Output) (r' : Naming.Registry) : Prop where
  dataTypes : o.dataTypes = visits.flatMap fun v => (v.output ctx package).dataTypes
  unions : o.unions = visits.flatMap fun v => (v.output ctx package).unions
  queries : o.queries = []
  projections : o.projections = []
  names : r'.names = (visits.map fun v => package ++ "." ++ v.type.name).reverse ++ r.names
  known : ∀ v ∈ visits, ctx.schema.findType? v.type.name = some v.type ∧ v.type.kind ≠ .scalar
  asked : ∀ v ∈ visits, Asked ctx stack ⟨v.type.name, v.selection?⟩
  settled : ∀ w ∈ stack, Settled ctx package r' w
  closed : ∀ v ∈ visits, ∀ w ∈ references ctx v.type v.selection?, Settled ctx package r' w

namespace Trace

variable {stack more : List Wanted} {r mid r' : Naming.Registry} {visits others : List Visit}
  {o o' : Output}

lemma nothing (r : Naming.Registry) : Trace ctx package [] r [] ∅ r where
  dataTypes := rfl
  unions := rfl
  queries := rfl
  projections := rfl
  names := rfl
  known := fun _ h => absurd h List.not_mem_nil
  asked := fun _ h => absurd h List.not_mem_nil
  settled := fun _ h => absurd h List.not_mem_nil
  closed := fun _ h => absurd h List.not_mem_nil

lemma keeps (h : Trace ctx package stack r visits o r') : r.names ⊆ r'.names := by
  intro n hn
  rw [h.names]
  exact List.mem_append_right _ hn

/-- A type on top that needs no visit. -/
lemma skip {w : Wanted} (h : Trace ctx package stack r visits o r')
    (hw : Settled ctx package r w) : Trace ctx package (w :: stack) r visits o r' where
  dataTypes := h.dataTypes
  unions := h.unions
  queries := h.queries
  projections := h.projections
  names := h.names
  known := h.known
  asked := fun v hv => (h.asked v hv).mono (List.subset_cons_self _ _)
  settled := fun v hv => by
    rcases List.mem_cons.mp hv with rfl | hv
    · exact hw.mono h.keeps
    · exact h.settled v hv
  closed := h.closed

lemma queries_describe (t : TypeDef) (selection? : Option Selection) :
    (describe ctx package t selection?).output.queries = [] := by
  unfold describe
  cases t.kind <;> rfl

/-- A type on top that is visited, and then the types that it refers to. -/
lemma visit {w : Wanted} {t : TypeDef} (ht : ctx.schema.findType? w.typeName = some t)
    (hkind : t.kind ≠ .scalar) (hfree : r.register? (package ++ "." ++ t.name) = some mid)
    (h : Trace ctx package (references ctx t w.selection? ++ stack) mid visits o r') :
    Trace ctx package (w :: stack) r (⟨t, w.selection?⟩ :: visits)
      ((describe ctx package t w.selection?).output ++ o) r' := by
  obtain ⟨_, rfl⟩ := Naming.Registry.register?_eq_some.mp hfree
  have hname : t.name = w.typeName := Schema.findType?_name ht
  have hgiven : package ++ "." ++ t.name ∈ r'.names := h.keeps List.mem_cons_self
  -- what the type refers to, the type itself leads to
  have hasked : ∀ v ∈ references ctx t w.selection? ++ stack, Asked ctx (w :: stack) v := by
    intro v hv
    rcases List.mem_append.mp hv with hv | hv
    · exact .further (.first List.mem_cons_self) ht hv
    · exact .first (List.mem_cons_of_mem _ hv)
  constructor
  · show (describe ctx package t w.selection?).output.dataTypes ++ o.dataTypes = _
    rw [h.dataTypes]
    rfl
  · show (describe ctx package t w.selection?).output.unions ++ o.unions = _
    rw [h.unions]
    rfl
  · show (describe ctx package t w.selection?).output.queries ++ o.queries = []
    rw [h.queries, queries_describe]
    rfl
  · rw [Output.projections_append, h.projections, projections_describe]
    rfl
  · rw [h.names]
    simp
  · intro v hv
    rcases List.mem_cons.mp hv with rfl | hv
    · exact ⟨hname ▸ ht, hkind⟩
    · exact h.known v hv
  · intro v hv
    rcases List.mem_cons.mp hv with rfl | hv
    · rw [hname]
      exact .first List.mem_cons_self
    · exact (h.asked v hv).of_forall hasked
  · intro v hv
    rcases List.mem_cons.mp hv with rfl | hv
    · intro u hu _
      obtain rfl := Option.some.inj (hu.symm.trans ht)
      exact hgiven
    · exact h.settled v (List.mem_append_right _ hv)
  · intro v hv u hu
    rcases List.mem_cons.mp hv with rfl | hv
    · exact h.settled u (List.mem_append_left _ hu)
    · exact h.closed v hv u hu

/-- One worklist after another on the same names. -/
lemma append (h : Trace ctx package stack r visits o mid)
    (h' : Trace ctx package more mid others o' r') :
    Trace ctx package (stack ++ more) r (visits ++ others) (o ++ o') r' where
  dataTypes := by
    show o.dataTypes ++ o'.dataTypes = _
    rw [h.dataTypes, h'.dataTypes, List.flatMap_append]
  unions := by
    show o.unions ++ o'.unions = _
    rw [h.unions, h'.unions, List.flatMap_append]
  queries := by
    show o.queries ++ o'.queries = []
    rw [h.queries, h'.queries]
    rfl
  projections := by
    rw [Output.projections_append, h.projections, h'.projections]
    rfl
  names := by
    rw [h'.names, h.names]
    simp
  known := fun v hv => (List.mem_append.mp hv).elim (h.known v) (h'.known v)
  asked := fun v hv => (List.mem_append.mp hv).elim
    (fun hv => (h.asked v hv).mono (List.subset_append_left _ _))
    (fun hv => (h'.asked v hv).mono (List.subset_append_right _ _))
  settled := fun w hw => (List.mem_append.mp hw).elim
    (fun hw => (h.settled w hw).mono h'.keeps) (h'.settled w)
  closed := fun v hv w hw => (List.mem_append.mp hv).elim
    (fun hv => (h.closed v hv w hw).mono h'.keeps) (fun hv => h'.closed v hv w hw)

end Trace

/-- A worklist makes visits. -/
theorem exists_trace (ctx : Context) (package : String) (stack : List Wanted)
    (r : Naming.Registry) :
    ∃ visits, Trace ctx package stack r visits (emit ctx package stack r).1
      (emit ctx package stack r).2 := by
  -- the cases are those of the worklist, as for the account of its names
  induction stack, r using emit.induct ctx package with
  | case1 r =>
    rw [emit]
    exact ⟨[], .nothing r⟩
  | case2 r w rest hunknown ih =>
    obtain ⟨visits, h⟩ := ih
    rw [emit_eq, hunknown]
    refine ⟨visits, h.skip fun t ht => ?_⟩
    rw [hunknown] at ht
    cases ht
  | case3 r w rest t hknown hscalar ih =>
    obtain ⟨visits, h⟩ := ih
    rw [emit_eq, hknown, Option.elim_some, if_pos hscalar]
    refine ⟨visits, h.skip fun u hu hkind => ?_⟩
    obtain rfl := Option.some.inj (hu.symm.trans hknown)
    exact (hkind hscalar).elim
  | case4 r w rest t hknown hscalar hgiven ih =>
    obtain ⟨visits, h⟩ := ih
    rw [emit_eq, hknown, Option.elim_some, if_neg hscalar, hgiven]
    refine ⟨visits, h.skip fun u hu _ => ?_⟩
    obtain rfl := Option.some.inj (hu.symm.trans hknown)
    -- a name that cannot be given out is given out already
    by_contra hfree
    have hsome := Naming.Registry.register?_eq_some.mpr ⟨hfree, rfl⟩
    rw [hgiven] at hsome
    cases hsome
  | case5 r w rest t hknown hscalar r' hfree d more r'' hemit ih =>
    obtain ⟨visits, h⟩ := ih
    rw [emit_eq, hknown, Option.elim_some, if_neg hscalar, hfree]
    have hreferences : d.references = references ctx t w.selection? :=
      references_describe ctx package t w.selection?
    rw [hreferences] at h
    refine ⟨⟨t, w.selection?⟩ :: visits, ?_⟩
    have hvisit := h.visit hknown hscalar hfree
    rw [← references_describe ctx package] at hvisit
    exact hvisit

end DataTypes

end ClientGen
