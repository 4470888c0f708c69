import ClientGen.Proofs.Walk.Spine
import Mathlib.Logic.Relation
import Mathlib.Order.WellFounded

/-!
# Where the walk ends

With a selection every step of the walk leads to a lower selection, and a step to a field passes
a new edge. What is left are fragments without a selection: they change neither, so a type that
is narrowed to itself, which unions can be, starts over for ever.

* `Ends` says that no chain of classes, each made as a part of the one before, is infinite.
* `ends_iff_not_meetsReturn` is the exact condition on the schema.
* `ends_iff_isWhole` ties it to the tree: the mark `Body.endless` stands in a tree exactly if the
  walk over it has no end.
-/

namespace ClientGen.Projection

open Relation (ReflTransGen TransGen)

/-! ## Infinite chains -/

/-- No chain of classes that starts at the position, each made as a part of the one before, goes
on for ever. -/
def Ends (ctx : Context) (p : Position) : Prop :=
  ¬ ∃ chain : ℕ → Position, chain 0 = p ∧ ∀ n, Nested ctx (chain n) (chain (n + 1))

lemma ends_iff_acc (ctx : Context) (p : Position) :
    Ends ctx p ↔ Acc (fun q p => Nested ctx p q) p := by
  unfold Ends
  rw [← not_iff_not, not_not, not_acc_iff_exists_descending_chain]

/-! ## Types that come back to themselves -/

/-- Without a selection, a position of the one type has a fragment on the other. -/
def NarrowsTo (ctx : Context) (t u : String) : Prop :=
  ∃ c ∈ narrowingsAt ctx (.start t none), c.name = u

/-- From the position the walk gets, without a selection, to a type that fragments narrow to
itself. -/
def MeetsReturn (ctx : Context) (p : Position) : Prop :=
  ∃ q, ReflTransGen (Nested ctx) p q ∧ q.selection? = none
    ∧ TransGen (NarrowsTo ctx) q.typeName q.typeName

variable {ctx : Context} {p q : Position} {trail : List String}

/-- The fragments at a position depend on its type and selection only. -/
lemma narrowingsAt_eq_of_none (h : p.selection? = none) :
    narrowingsAt ctx p = narrowingsAt ctx (.start p.typeName none) := by
  unfold narrowingsAt Position.start
  rw [h]

lemma inside_eq_of_none (h : p.selection? = none) (c : TypeDef) :
    p.inside c = { p with typeName := c.name } := by
  unfold Position.inside Position.narrow
  rw [h]
  rfl

lemma narrowsTo_of_mem {c : TypeDef} (h : p.selection? = none) (hc : c ∈ narrowingsAt ctx p) :
    NarrowsTo ctx p.typeName c.name :=
  ⟨c, narrowingsAt_eq_of_none h ▸ hc, rfl⟩

/-- What a type is narrowed to, a position of the type leads to, and nothing else about the
position changes. -/
lemma nested_of_transGen {u : String} (h : p.selection? = none)
    (hu : TransGen (NarrowsTo ctx) p.typeName u) :
    TransGen (Nested ctx) p { p with typeName := u } := by
  have hstep : ∀ q : Position, q.selection? = none → ∀ v, NarrowsTo ctx q.typeName v →
      Nested ctx q { q with typeName := v } := by
    intro q hq v ⟨c, hc, hname⟩
    subst hname
    rw [← inside_eq_of_none hq]
    exact .narrow (narrowingsAt_eq_of_none hq ▸ hc)
  induction hu with
  | single hv => exact .single (hstep p h _ hv)
  | @tail v w _ hw ih => exact ih.tail (hstep { p with typeName := v } h w hw)

private lemma acc_irrefl {α : Type} {r : α → α → Prop} {a : α} (h : Acc r a) : ¬ r a a := by
  induction h with
  | intro a _ ih => exact fun haa => ih a haa haa

/-- A type that comes back to itself keeps the walk going. -/
lemma not_ends_of_meetsReturn (h : MeetsReturn ctx p) : ¬ Ends ctx p := by
  obtain ⟨q, hq, hnone, hreturn⟩ := h
  rw [ends_iff_acc]
  intro hacc
  -- what is reached from an accessible position is accessible as well
  have haccq : Acc (fun q p => Nested ctx p q) q := by
    clear hnone hreturn
    induction hq with
    | refl => exact hacc
    | tail _ hstep ih => exact ih.inv hstep
  -- the position leads to itself, so it lies below itself in the order of the chain
  have hself : TransGen (Nested ctx) q q := nested_of_transGen hnone hreturn
  exact acc_irrefl haccq.transGen (Relation.transGen_swap.mpr hself)

lemma MeetsReturn.of_nested (h : MeetsReturn ctx q) (hpq : Nested ctx p q) :
    MeetsReturn ctx p := by
  obtain ⟨r, hqr, hreturn⟩ := h
  exact ⟨r, .head hpq hqr, hreturn⟩

lemma ends_of_nested (h : ∀ q, Nested ctx p q → Ends ctx q) : Ends ctx p := by
  rw [ends_iff_acc]
  exact Acc.intro p fun q hq => (ends_iff_acc ctx q).mp (h q hq)

/-! ## Whole trees -/

namespace Body

private lemma ends_of_entries
    (h : ∀ e ∈ entriesAt ctx p, ∀ q, e.position? p = some q → Ends ctx q) : Ends ctx p := by
  refine ends_of_nested fun q hq => ?_
  obtain ⟨e, he, hposition⟩ := exists_entry_of_nested hq
  exact h e he q hposition

/-- In a whole tree the walk ends at every position to which an entry of the spine leads. -/
lemma ends_below_of_isWhole (b : Body) (hfollows : b.Follows ctx p trail) (h : b.IsWhole) :
    ∀ e ∈ b.entries, ∀ q, e.position? p = some q → Ends ctx q := by
  induction b generalizing p trail with
  | done => intro e he; cases he
  | endless => exact h.elim
  | leaf f rest ih =>
    intro e he q hq
    rcases List.mem_cons.mp he with rfl | he
    · cases hq
    · exact ih hfollows.2.2 h e he q hq
  | branch f target below rest ihBelow ihRest =>
    obtain ⟨_, _, rfl, hrest⟩ := hfollows
    intro e he q hq
    rcases List.mem_cons.mp he with rfl | he
    · cases hq
      exact ends_of_entries fun e he =>
        ihBelow (follows_grow ctx _ _) h.1 e (entries_grow h.1 ▸ he)
    · exact ihRest hrest h.2 e he q hq
  | fragment target below rest ihBelow ihRest =>
    obtain ⟨_, _, rfl, hrest⟩ := hfollows
    intro e he q hq
    rcases List.mem_cons.mp he with rfl | he
    · cases hq
      exact ends_of_entries fun e he =>
        ihBelow (follows_grow ctx _ _) h.1 e (entries_grow h.1 ▸ he)
    · exact ihRest hrest h.2 e he q hq

/-- The types of a trail are narrowed, one after the other, to the type at hand. -/
def IsTrail (ctx : Context) (p : Position) (trail : List String) : Prop :=
  p.selection? = none → ∀ t ∈ trail, ReflTransGen (NarrowsTo ctx) t p.typeName

lemma isTrail_single (ctx : Context) (p : Position) : IsTrail ctx p [p.typeName] := by
  intro _ t ht
  rw [List.mem_singleton.mp ht]

lemma isTrail_inside {c : TypeDef} (h : IsTrail ctx p trail) (hc : c ∈ narrowingsAt ctx p) :
    IsTrail ctx (p.inside c) (trailInside p trail c) := by
  unfold trailInside
  cases hselection : p.selection? with
  | some s => exact isTrail_single ctx (p.inside c)
  | none =>
    intro _ t ht
    rcases List.mem_cons.mp ht with rfl | ht
    · exact .refl
    · exact (h hselection t ht).tail (narrowsTo_of_mem hselection hc)

/-- Where a tree is not whole, the walk meets a type that comes back to itself. -/
lemma meetsReturn_of_not_isWhole (b : Body) (hfollows : b.Follows ctx p trail)
    (htrail : IsTrail ctx p trail) (h : ¬ b.IsWhole) : MeetsReturn ctx p := by
  induction b generalizing p trail with
  | done => exact (h trivial).elim
  | endless =>
    obtain ⟨c, hc, hnone, hback⟩ := hfollows
    -- the fragment is on a type of the trail, which leads to the type at hand again
    exact ⟨p, .refl, hnone, .head' (narrowsTo_of_mem hnone hc) (htrail hnone _ hback)⟩
  | leaf f rest ih => exact ih hfollows.2.2 htrail h
  | branch f target below rest ihBelow ihRest =>
    obtain ⟨hleads, _, rfl, hrest⟩ := hfollows
    rcases not_and_or.mp h with h | h
    · exact (ihBelow (follows_grow ctx _ _) (isTrail_single ctx _) h).of_nested (.descend hleads)
    · exact ihRest hrest htrail h
  | fragment target below rest ihBelow ihRest =>
    obtain ⟨hc, _, rfl, hrest⟩ := hfollows
    rcases not_and_or.mp h with h | h
    · exact (ihBelow (follows_grow ctx _ _) (isTrail_inside htrail hc) h).of_nested (.narrow hc)
    · exact ihRest hrest htrail h

end Body

/-! ## The exact condition -/

theorem ends_iff_isWhole (ctx : Context) (typeName : String) (selection? : Option Selection) :
    Ends ctx (.start typeName selection?)
      ↔ (Body.grow ctx (.start typeName selection?) [typeName]).IsWhole := by
  have hfollows := Body.follows_grow ctx (.start typeName selection?) [typeName]
  constructor
  · intro hends
    by_contra h
    have hreturn := Body.meetsReturn_of_not_isWhole _ hfollows (Body.isTrail_single ctx _) h
    exact not_ends_of_meetsReturn hreturn hends
  · intro h
    exact Body.ends_of_entries fun e he =>
      Body.ends_below_of_isWhole _ hfollows h e (Body.entries_grow h ▸ he)

theorem ends_iff_not_meetsReturn (ctx : Context) (typeName : String)
    (selection? : Option Selection) :
    Ends ctx (.start typeName selection?) ↔ ¬ MeetsReturn ctx (.start typeName selection?) := by
  constructor
  · intro hends hreturn
    exact not_ends_of_meetsReturn hreturn hends
  · intro hreturn
    rw [ends_iff_isWhole]
    by_contra h
    apply hreturn
    exact Body.meetsReturn_of_not_isWhole _ (Body.follows_grow ctx _ _)
      (Body.isTrail_single ctx _) h

end ClientGen.Projection
