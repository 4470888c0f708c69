import ClientGen.Proofs.Runs
import Mathlib.Data.List.Count

/-!
# Accounts of names

For every name that is given out there is a class, or a union that was emitted, and the other
way round. The account is kept by counting: how often a name is registered after a part of a run
is how often it was before, and how often it is in the output.

* `Accounts` states it of a part of a run.
* `DataTypes.emit_spec` is the account of the data types, over the whole stack.
-/

namespace ClientGen

/-! ## Outputs -/

namespace Output

lemma append_assoc (a b c : Output) : a ++ b ++ c = a ++ (b ++ c) := by
  show Output.merge (Output.merge a b) c = Output.merge a (Output.merge b c)
  simp only [Output.merge, List.append_assoc]

lemma append_empty (a : Output) : a ++ ∅ = a := by
  show Output.mk (a.queries ++ []) (a.projections ++ []) (a.dataTypes ++ []) (a.unions ++ [])
    (a.warnings ++ []) = a
  simp only [List.append_nil]

@[simp] lemma names_empty : names ∅ = [] := rfl

lemma classes_append (a b : Output) :
    (a ++ b).classes
      = (a.queries ++ b.queries).map .query ++ (a.projections ++ b.projections).map .projection
        ++ (a.dataTypes ++ b.dataTypes).map .dataType := rfl

@[simp] lemma count_names_append (a b : Output) (n : String) :
    (a ++ b).names.count n = a.names.count n + b.names.count n := by
  have hunions : (a ++ b).unions = a.unions ++ b.unions := rfl
  unfold names
  rw [classes_append, hunions]
  unfold classes
  simp only [List.map_append, List.count_append]
  omega

@[simp] lemma projections_append (a b : Output) :
    (a ++ b).projections = a.projections ++ b.projections := rfl

/-- The unions of an output are union types of the schema. -/
def KnowsUnions (ctx : Context) (o : Output) : Prop :=
  ∀ u ∈ o.unions, ∃ t ∈ ctx.schema.types, t.kind = .union ∧ t.name = u.name

lemma knowsUnions_empty (ctx : Context) : KnowsUnions ctx ∅ := by
  intro u hu
  cases hu

lemma KnowsUnions.append {ctx : Context} {a b : Output} (ha : a.KnowsUnions ctx)
    (hb : b.KnowsUnions ctx) : (a ++ b).KnowsUnions ctx := by
  intro u hu
  rcases List.mem_append.mp hu with hu | hu
  · exact ha u hu
  · exact hb u hu

end Output

/-! ## Accounts -/

/-- Exactly what is in the output has been registered in between. -/
def Accounts (r : Naming.Registry) (o : Output) (r' : Naming.Registry) : Prop :=
  ∀ n, r'.names.count n = o.names.count n + r.names.count n

namespace Accounts

variable {r mid r' : Naming.Registry} {a b : Output}

lemma empty (r : Naming.Registry) : Accounts r ∅ r := by
  intro n
  rw [Output.names_empty, List.count_nil, Nat.zero_add]

lemma append (h : Accounts r a mid) (h' : Accounts mid b r') : Accounts r (a ++ b) r' := by
  intro n
  have hfirst := h n
  have hsecond := h' n
  rw [Output.count_names_append]
  omega

/-- A name that is given out for something of that name. -/
lemma register {name : String} (h : r.register? name = some r') (hnames : a.names = [name]) :
    Accounts r a r' := by
  obtain ⟨_, rfl⟩ := Naming.Registry.register?_eq_some.mp h
  intro n
  rw [hnames, ← List.count_append]
  rfl

/-- What is given out by then has been given out before, or is in the output. -/
lemma mem_iff (h : Accounts r a r') (n : String) : n ∈ r'.names ↔ n ∈ a.names ∨ n ∈ r.names := by
  have hcount := h n
  rw [← List.count_pos_iff, ← List.count_pos_iff, ← List.count_pos_iff]
  omega

lemma keeps (h : Accounts r a r') : r.names ⊆ r'.names :=
  fun n hn => (h.mem_iff n).mpr (.inr hn)

/-- The names after a class with what comes behind it. -/
lemma mem_iff_of_names (h : Accounts r (a ++ b) r') (name : String) (ha : a.names = [name])
    (n : String) : n ∈ r'.names ↔ (n = name ∨ n ∈ b.names) ∨ n ∈ r.names := by
  have hsplit : n ∈ (a ++ b).names ↔ n = name ∨ n ∈ b.names := by
    have hcount := Output.count_names_append a b n
    rw [← List.mem_singleton, ← ha, ← List.count_pos_iff, ← List.count_pos_iff,
      ← List.count_pos_iff]
    omega
  rw [h.mem_iff, hsplit]

end Accounts

/-! ## Data types -/

/-- A step that brings data types: what it gives out is what comes out, the names are all
different, the unions are known, and there are no projections among it. -/
structure BringsTypes (ctx : Context) (r : Naming.Registry) (o : Output) (r' : Naming.Registry) :
    Prop where
  accounts : Accounts r o r'
  grows : r.Grows r'
  projections : o.projections = []
  unions : o.KnowsUnions ctx

lemma BringsTypes.nothing (ctx : Context) (r : Naming.Registry) : BringsTypes ctx r ∅ r :=
  ⟨.empty r, .refl r, rfl, Output.knowsUnions_empty ctx⟩

lemma BringsTypes.append {ctx : Context} {r mid r' : Naming.Registry} {a b : Output}
    (h : BringsTypes ctx r a mid) (h' : BringsTypes ctx mid b r') :
    BringsTypes ctx r (a ++ b) r' where
  accounts := h.accounts.append h'.accounts
  grows := h.grows.trans h'.grows
  projections := by rw [Output.projections_append, h.projections, h'.projections]; rfl
  unions := h.unions.append h'.unions

namespace DataTypes

variable {ctx : Context} {package : String}

/-- A type that is not a scalar comes to a class or a union of its name. -/
lemma names_describe {t : TypeDef} (h : t.kind ≠ .scalar) (selection? : Option Selection) :
    (describe ctx package t selection?).output.names = [package ++ "." ++ t.name] := by
  unfold describe
  cases hkind : t.kind with
  | scalar => exact (h hkind).elim
  | union => rfl
  | enum => rfl
  | input => rfl
  | object => rfl
  | interface => rfl

lemma projections_describe (ctx : Context) (package : String) (t : TypeDef)
    (selection? : Option Selection) :
    (describe ctx package t selection?).output.projections = [] := by
  unfold describe
  cases t.kind <;> rfl

lemma knowsUnions_describe {t : TypeDef} (ht : t ∈ ctx.schema.types)
    (selection? : Option Selection) :
    (describe ctx package t selection?).output.KnowsUnions ctx := by
  intro u hu
  unfold describe at hu
  cases hkind : t.kind with
  | union =>
    rw [hkind] at hu
    obtain rfl := List.mem_singleton.mp hu
    exact ⟨t, ht, hkind, rfl⟩
  | _ =>
    rw [hkind] at hu
    cases hu

/-- One type, with the registration of its name. -/
lemma bringsTypes_describe {t : TypeDef} {r r' : Naming.Registry} (ht : t ∈ ctx.schema.types)
    (hkind : t.kind ≠ .scalar) (hfree : r.register? (package ++ "." ++ t.name) = some r')
    (selection? : Option Selection) :
    BringsTypes ctx r (describe ctx package t selection?).output r' where
  accounts := .register hfree (names_describe hkind selection?)
  grows := Naming.Registry.grows_of_register? hfree
  projections := projections_describe ctx package t selection?
  unions := knowsUnions_describe ht selection?

/-- The recursion of `emit` without the proofs that make it end. -/
lemma emit_eq (w : Wanted) (rest : List Wanted) (r : Naming.Registry) :
    emit ctx package (w :: rest) r
      = (ctx.schema.findType? w.typeName).elim (emit ctx package rest r) fun t =>
          if t.kind = .scalar then emit ctx package rest r
          else
            (r.register? (package ++ "." ++ t.name)).elim (emit ctx package rest r) fun r' =>
              let d := describe ctx package t w.selection?
              let more := emit ctx package (d.references ++ rest) r'
              (d.output ++ more.1, more.2) := by
  rw [emit]
  split <;> rename_i hknown <;> rw [hknown]
  · rfl
  · rw [Option.elim_some]
    split
    · rfl
    · -- the name is given out, or it is free
      split <;> rename_i hfree <;> rw [hfree] <;> rfl

/-- A stack of wanted types brings data types only. -/
theorem emit_spec (ctx : Context) (package : String) (stack : List Wanted)
    (r : Naming.Registry) :
    BringsTypes ctx r (emit ctx package stack r).1 (emit ctx package stack r).2 := by
  -- the cases are those of the worklist: empty, and then for the type on top unknown, a scalar,
  -- already given out, or to be described
  induction stack, r using emit.induct ctx package with
  | case1 r =>
    rw [emit]
    exact .nothing ctx r
  | case2 r w rest hunknown ih =>
    rw [emit_eq, hunknown]
    exact ih
  | case3 r w rest t hknown hscalar ih =>
    rw [emit_eq, hknown, Option.elim_some, if_pos hscalar]
    exact ih
  | case4 r w rest t hknown hscalar hgiven ih =>
    rw [emit_eq, hknown, Option.elim_some, if_neg hscalar, hgiven]
    exact ih
  | case5 r w rest t hknown hscalar r' hfree d more r'' hemit ih =>
    rw [emit_eq, hknown, Option.elim_some, if_neg hscalar, hfree]
    have hown := bringsTypes_describe (Schema.findType?_mem hknown) hscalar hfree w.selection?
    exact hown.append ih

/-- Emitting data types always succeeds. -/
theorem run_spec (ctx : Context) (package : String) (stack : List Wanted) (st : RunState) :
    ∃ o st', run ctx package stack st = .ok o st'
      ∧ BringsTypes ctx st.registry o st'.registry := by
  unfold run
  split
  · exact ⟨_, _, rfl, emit_spec ctx package stack st.registry⟩
  · exact ⟨_, _, rfl, .nothing ctx _⟩

lemma bringsTypes_of_run {package : String} {stack : List Wanted} {o : Output} {st st' : RunState}
    (h : run ctx package stack st = .ok o st') : BringsTypes ctx st.registry o st'.registry := by
  obtain ⟨types, closed, htypes, hbrings⟩ := run_spec ctx package stack st
  rw [htypes] at h
  cases h
  exact hbrings

end DataTypes

end ClientGen
