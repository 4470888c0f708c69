import ClientGen.Proofs.Naming.Free
import ClientGen.Projection.Emission
import Mathlib.Data.List.Nodup

/-!
# Parts of runs

How a part of a run comes to its end, step by step, and what each of the basic steps does to the
names that have been given out. A run may fail half-way; the names that it has given out by then
stay given out, so what is said about names here holds of failures as well.

* `Run.bind_eq_ok` takes a run that succeeds apart.
* `Run.Tame` says that a run takes no name back, gives none out twice, fails for one reason only,
  and does not fail under a condition.
-/

namespace ClientGen

namespace Run

variable {α β : Type}

/-! ## Success -/

theorem bind_eq_ok {x : Run α} {f : α → Run β} {st st' : RunState} {b : β} :
    (x >>= f) st = .ok b st' ↔ ∃ a mid, x st = .ok a mid ∧ f a mid = .ok b st' := by
  show EStateM.bind x f st = .ok b st' ↔ _
  unfold EStateM.bind
  constructor
  · intro h
    cases hx : x st with
    | ok a mid => rw [hx] at h; exact ⟨a, mid, rfl, h⟩
    | error e mid => rw [hx] at h; cases h
  · rintro ⟨a, mid, hx, hf⟩
    rw [hx]
    exact hf

theorem pure_eq_ok {a b : α} {st st' : RunState} :
    (pure a : Run α) st = .ok b st' ↔ a = b ∧ st = st' := by
  show EStateM.Result.ok a st = .ok b st' ↔ _
  constructor
  · intro h
    cases h
    exact ⟨rfl, rfl⟩
  · rintro ⟨rfl, rfl⟩
    rfl

/-! ## Names that are kept -/

/-- The state that a run leaves behind, whether it succeeds or not. -/
def stateAfter (x : Run α) (st : RunState) : RunState :=
  match x st with
  | .ok _ st' => st'
  | .error _ st' => st'

end Run

/-- No name is taken back, and none is given out twice. -/
structure Naming.Registry.Grows (r r' : Naming.Registry) : Prop where
  keeps : r.names <:+ r'.names
  nodup : r.names.Nodup → r'.names.Nodup

namespace Naming.Registry

lemma Grows.refl (r : Registry) : r.Grows r := ⟨List.suffix_refl _, id⟩

lemma Grows.trans {r mid r' : Registry} (h : r.Grows mid) (h' : mid.Grows r') : r.Grows r' :=
  ⟨h.keeps.trans h'.keeps, h'.nodup ∘ h.nodup⟩

/-- A name can be given out exactly if it is not registered yet. -/
lemma register?_eq_some {r r' : Registry} {name : String} :
    r.register? name = some r' ↔ name ∉ r.names ∧ r' = ⟨name :: r.names⟩ := by
  unfold register? contains
  by_cases h : name ∈ r.names
  · simp [h]
  · simp [h, eq_comm]

/-- A name that has been given out is not given out again. -/
lemma register?_eq_none {r : Registry} {name : String} :
    r.register? name = none ↔ name ∈ r.names := by
  unfold register? contains
  by_cases h : name ∈ r.names
  · simp [h]
  · simp [h]

lemma grows_of_register? {r r' : Registry} {name : String} (h : r.register? name = some r') :
    r.Grows r' := by
  obtain ⟨hfree, rfl⟩ := register?_eq_some.mp h
  exact ⟨List.suffix_cons _ _, List.nodup_cons.mpr ∘ And.intro hfree⟩

end Naming.Registry

namespace Run

variable {α β : Type}

/-- From every state the run takes no name back and gives none out twice. If it fails, then because
fragments have no end; and if they all end, it succeeds. -/
structure Tame (ends : Prop) (x : Run α) : Prop where
  grows : ∀ st : RunState, st.registry.Grows (stateAfter x st).registry
  fails : ∀ {st : RunState} {e : RunError} {st' : RunState},
    x st = .error e st' → e = .endlessFragments
  succeeds : ends → ∀ st : RunState, ∃ a st', x st = .ok a st'

namespace Tame

variable {ends : Prop}

lemma grows_of_ok {x : Run α} (h : Tame ends x) {st st' : RunState} {a : α}
    (hx : x st = .ok a st') : st.registry.Grows st'.registry := by
  have hgrows := h.grows st
  unfold stateAfter at hgrows
  rw [hx] at hgrows
  exact hgrows

lemma grows_of_error {x : Run α} (h : Tame ends x) {st st' : RunState} {e : RunError}
    (hx : x st = .error e st') : st.registry.Grows st'.registry := by
  have hgrows := h.grows st
  unfold stateAfter at hgrows
  rw [hx] at hgrows
  exact hgrows

/-- A stronger condition does as well. -/
lemma weaken {stronger : Prop} {x : Run α} (h : Tame ends x) (himp : stronger → ends) :
    Tame stronger x :=
  ⟨h.grows, h.fails, fun hends => h.succeeds (himp hends)⟩

/-- A run that always succeeds needs to be looked at only there. -/
lemma of_ok {x : Run α}
    (h : ∀ st : RunState, ∃ a st', x st = .ok a st' ∧ st.registry.Grows st'.registry) :
    Tame ends x := by
  constructor
  · intro st
    obtain ⟨a, st', hx, hgrows⟩ := h st
    unfold stateAfter
    rw [hx]
    exact hgrows
  · intro st e st' hx
    obtain ⟨a, mid, hok, _⟩ := h st
    rw [hok] at hx
    cases hx
  · intro _ st
    obtain ⟨a, st', hx, _⟩ := h st
    exact ⟨a, st', hx⟩

lemma pure (a : α) : Tame ends (Pure.pure a) := of_ok fun st => ⟨a, st, rfl, .refl _⟩

lemma endless : Tame False (throw .endlessFragments : Run α) := by
  constructor
  · exact fun _ => .refl _
  · intro st e st' h
    cases h
    rfl
  · exact fun h => h.elim

lemma bind {x : Run α} {f : α → Run β} (hx : Tame ends x) (hf : ∀ a, Tame ends (f a)) :
    Tame ends (x >>= f) := by
  have hrun : ∀ st, (x >>= f) st = EStateM.bind x f st := fun _ => rfl
  constructor
  · intro st
    unfold stateAfter
    rw [hrun, EStateM.bind]
    -- a failure in the first part ends the run with the state of that part
    cases h : x st with
    | ok a mid => exact (hx.grows_of_ok h).trans ((hf a).grows mid)
    | error e mid => exact hx.grows_of_error h
  · intro st e st' h
    rw [hrun, EStateM.bind] at h
    cases hfirst : x st with
    | ok a mid =>
      rw [hfirst] at h
      exact (hf a).fails h
    | error e' mid =>
      rw [hfirst] at h
      cases h
      exact hx.fails hfirst
  · intro hends st
    obtain ⟨a, mid, ha⟩ := hx.succeeds hends st
    obtain ⟨b, st', hb⟩ := (hf a).succeeds hends mid
    exact ⟨b, st', bind_eq_ok.mpr ⟨a, mid, ha, hb⟩⟩

lemma ite {c : Prop} [Decidable c] {x y : Run α} (hx : Tame ends x) (hy : Tame ends y) :
    Tame ends (if c then x else y) := by
  split
  · exact hx
  · exact hy

end Tame

end Run

namespace Projection

/-! ## Basic steps -/

lemma registerClass_eq_true {ctx : Context} {name : String} {st st' : RunState} :
    registerClass ctx name st = .ok true st'
      ↔ clientName ctx name ∉ st.registry.names
        ∧ st' = { st with registry := ⟨clientName ctx name :: st.registry.names⟩ } := by
  unfold registerClass Naming.Registry.register? Naming.Registry.contains
  by_cases h : clientName ctx name ∈ st.registry.names
  · simp [h]
  · simp [h, eq_comm]

lemma registerClass_eq_false {ctx : Context} {name : String} {st st' : RunState} :
    registerClass ctx name st = .ok false st'
      ↔ clientName ctx name ∈ st.registry.names ∧ st' = st := by
  unfold registerClass Naming.Registry.register? Naming.Registry.contains
  by_cases h : clientName ctx name ∈ st.registry.names
  · simp [h, eq_comm]
  · simp [h]

lemma clientName_injective (ctx : Context) : Function.Injective (clientName ctx) := by
  intro a b h
  unfold clientName at h
  exact (String.append_right_inj _).mp h

lemma classOfStem_injective : Function.Injective classOfStem := by
  intro a b h
  unfold classOfStem at h
  exact (String.append_left_inj _).mp h

/-- The name of the class of a stem that has been claimed is free. -/
theorem clientName_freeStem_not_mem (ctx : Context) (r : Naming.Registry) (stem : String) :
    clientName ctx (classOfStem (freeStem ctx r stem)) ∉ r.names :=
  Naming.firstFree_not_mem ((clientName_injective ctx).comp classOfStem_injective) r.names stem

end Projection

end ClientGen
