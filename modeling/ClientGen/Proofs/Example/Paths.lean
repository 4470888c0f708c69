import ClientGen.Proofs.Example.Entries
import Mathlib.Data.List.Induction

/-!
# Paths through merged selections

A walk along an example merges what stands under one name at every step: a field that is selected
twice, the fragments on one type, and the fields of fragments with those beside them. Without any
merging a step takes one of these entries, and there may be several to take.

* `SelectionStep.follow?_eq` says that a step merges all entries that it may take, in their order.
* `Merges` relates a selection to those that it holds together, and `Merges.follow` carries this
  along a path, however many there are at its start.
* `exists_path_iff_leads` compares the paths: what is reached by merging is what is reached by
  taking one entry after the other.
-/

namespace ClientGen

/-! ## One entry at a time -/

/-- A step takes one selection: a field of the name, which stands directly below or directly below a
fragment on the type, or a fragment on the type. -/
inductive SelectionStep.Takes : SelectionStep → Selection → Selection → Prop
  | field {s t : Selection} {type? : Option String} (h : t ∈ s.fields) :
      Takes (.child t.name type?) s t
  | inside {s f t : Selection} (hf : f ∈ s.fragments) (h : t ∈ f.fields) :
      Takes (.child t.name (some f.name)) s t
  | fragment {s t : Selection} (h : t ∈ s.fragments) : Takes (.fragment t.name) s t

/-- A path leads from a selection to another, one entry taken at every step. -/
inductive Selection.Leads : Selection → List SelectionStep → Selection → Prop
  | here (s : Selection) : Leads s [] s
  | step {s t u : Selection} {step : SelectionStep} {path : List SelectionStep}
      (h : step.Takes s t) (hrest : Leads t path u) : Leads s (step :: path) u

/-! ## All entries of a name -/

namespace Selection

variable {s t r : Selection} {ss ts : List Selection} {field : String}

/-- One selection with the content of all, if there is any. -/
def mergeAll? : List Selection → Option Selection
  | [] => none
  | s :: ss => some (ss.foldl merged s)

/-- A selection added to what may be there already. -/
def addTo (s : Selection) : Option Selection → Selection
  | none => s
  | some t => t.merged s

lemma mergeAll?_concat (ss : List Selection) (s : Selection) :
    mergeAll? (ss ++ [s]) = some (s.addTo (mergeAll? ss)) := by
  cases ss with
  | nil => rfl
  | cons t ts =>
    rw [List.cons_append, mergeAll?, List.foldl_append]
    rfl

/-- What stands under a name after one more selection. -/
lemma find?_mergeInto (s : Selection) (ts : List Selection) (field : String) :
    (mergeInto s ts).find? (·.name = field)
      = if s.name = field then some (s.addTo (ts.find? (·.name = field)))
        else ts.find? (·.name = field) := by
  induction ts with
  | nil =>
    rw [mergeInto, List.find?_cons]
    by_cases h : s.name = field
    · rw [if_pos h]
      simp [h, addTo]
    · rw [if_neg h]
      simp [h]
  | cons t ts ih =>
    have hmerged : (t.merged s).name = t.name := rfl
    rw [mergeInto]
    by_cases hname : t.name = s.name
    · rw [if_pos hname, List.find?_cons, List.find?_cons, hmerged, hname]
      by_cases h : s.name = field
      · simp [h, addTo]
      · simp [h]
    · rw [if_neg hname, List.find?_cons, List.find?_cons, ih]
      by_cases h : t.name = field
      · have hother : s.name ≠ field := fun hs => hname (h.trans hs.symm)
        simp [h, hother]
      · simp [h]

/-- Merging by name puts all selections of a name together, in their order. -/
lemma find?_mergeByName (ss : List Selection) (field : String) :
    (mergeByName ss).find? (·.name = field) = mergeAll? (ss.filter (·.name = field)) := by
  induction ss using List.reverseRecOn with
  | nil => rfl
  | append_singleton ss s ih =>
    rw [mergeByName_concat, find?_mergeInto, ih, List.filter_append]
    by_cases h : s.name = field
    · rw [if_pos h, List.filter_cons_of_pos (by simpa using h), List.filter_nil, mergeAll?_concat]
    · rw [if_neg h, List.filter_cons_of_neg (by simpa using h), List.filter_nil, List.append_nil]

end Selection

open Selection (mergeAll? Leads)

/-- All entries that a step may take. -/
def SelectionStep.entries (s : Selection) : SelectionStep → List Selection
  | .child field none => s.fields.filter (·.name = field)
  | .child field (some type) =>
    (s.fields ++ (s.fragmentsOn type).flatMap Selection.fields).filter (·.name = field)
  | .fragment type => s.fragmentsOn type

lemma SelectionStep.mem_entries_iff {step : SelectionStep} {s t : Selection} :
    t ∈ step.entries s ↔ step.Takes s t := by
  constructor
  · intro hmem
    match step with
    | .child field none =>
      obtain ⟨hfield, hname⟩ := List.mem_filter.mp hmem
      obtain rfl := of_decide_eq_true hname
      exact .field hfield
    | .child field (some type) =>
      obtain ⟨hentry, hname⟩ := List.mem_filter.mp hmem
      obtain rfl := of_decide_eq_true hname
      rcases List.mem_append.mp hentry with hfield | hinside
      · exact .field hfield
      · obtain ⟨f, hf, hfield⟩ := List.mem_flatMap.mp hinside
        obtain ⟨hfragment, htype⟩ := List.mem_filter.mp hf
        obtain rfl := of_decide_eq_true htype
        exact .inside hfragment hfield
    | .fragment type =>
      obtain ⟨hfragment, hname⟩ := List.mem_filter.mp hmem
      obtain rfl := of_decide_eq_true hname
      exact .fragment hfragment
  · rintro (@⟨_, _, type?, h⟩ | @⟨_, f, _, hf, h⟩ | ⟨h⟩)
    · cases type? with
      | none => exact List.mem_filter.mpr ⟨h, decide_eq_true rfl⟩
      | some type =>
        exact List.mem_filter.mpr ⟨List.mem_append_left _ h, decide_eq_true rfl⟩
    · have hon : f ∈ s.fragmentsOn f.name := List.mem_filter.mpr ⟨hf, decide_eq_true rfl⟩
      have hinside := List.mem_flatMap.mpr ⟨f, hon, h⟩
      exact List.mem_filter.mpr ⟨List.mem_append_right _ hinside, decide_eq_true rfl⟩
    · exact List.mem_filter.mpr ⟨h, decide_eq_true rfl⟩

/-- A step merges all entries that it may take. -/
lemma SelectionStep.follow?_eq (step : SelectionStep) (s : Selection) :
    step.follow? s = mergeAll? (step.entries s) := by
  match step with
  | .child field none =>
    rw [follow?, Selection.child?, Selection.fieldsFor, Selection.find?_mergeByName,
      List.append_nil]
    rfl
  | .child field (some type) => exact Selection.find?_mergeByName _ _
  | .fragment type =>
    rw [follow?, Selection.fragment?, entries]
    cases s.fragmentsOn type <;> rfl

/-! ## Merged selections -/

/-- A selection holds together those with a property: it has their fields and fragments and no
others, and there is one of them at least. -/
structure Merges (P : Selection → Prop) (s : Selection) : Prop where
  inhabited : ∃ t, P t
  fields : ∀ x, x ∈ s.fields ↔ ∃ t, P t ∧ x ∈ t.fields
  fragments : ∀ x, x ∈ s.fragments ↔ ∃ t, P t ∧ x ∈ t.fragments

namespace Merges

variable {P Q : Selection → Prop} {s t : Selection}

lemma single (s : Selection) : Merges (· = s) s where
  inhabited := ⟨s, rfl⟩
  fields x := by simp
  fragments x := by simp

lemma merged (hs : Merges P s) (ht : Merges Q t) : Merges (fun u => P u ∨ Q u) (s.merged t) where
  inhabited := hs.inhabited.imp fun _ => .inl
  fields x := by
    have happend : (s.merged t).fields = s.fields ++ t.fields := rfl
    simp only [happend, List.mem_append, hs.fields, ht.fields, or_and_right, exists_or]
  fragments x := by
    have happend : (s.merged t).fragments = s.fragments ++ t.fragments := rfl
    simp only [happend, List.mem_append, hs.fragments, ht.fragments, or_and_right, exists_or]

lemma congr (h : Merges P s) (hPQ : ∀ u, P u ↔ Q u) : Merges Q s := by
  obtain rfl : P = Q := funext fun u => propext (hPQ u)
  exact h

/-- The entries that a step may take are merged. -/
lemma mergeAll? {ss : List Selection} {r : Selection} (h : Selection.mergeAll? ss = some r) :
    Merges (· ∈ ss) r := by
  induction ss using List.reverseRecOn generalizing r with
  | nil => cases h
  | append_singleton ss s ih =>
    rw [Selection.mergeAll?_concat] at h
    cases h
    cases hbefore : Selection.mergeAll? ss with
    | none =>
      obtain rfl : ss = [] := by
        cases ss with
        | nil => rfl
        | cons => cases hbefore
      exact (single s).congr fun u => by simp
    | some t => exact ((ih hbefore).merged (single s)).congr fun u => by simp

/-- An entry that a step may take stands in one of those that are held together. -/
lemma takes_iff (h : Merges P s) {step : SelectionStep} {x : Selection} :
    step.Takes s x ↔ ∃ t, P t ∧ step.Takes t x := by
  constructor
  · rintro (⟨hx⟩ | ⟨hf, hx⟩ | ⟨hx⟩)
    · obtain ⟨t, ht, hx⟩ := (h.fields x).mp hx
      exact ⟨t, ht, .field hx⟩
    · obtain ⟨t, ht, hf⟩ := (h.fragments _).mp hf
      exact ⟨t, ht, .inside hf hx⟩
    · obtain ⟨t, ht, hx⟩ := (h.fragments x).mp hx
      exact ⟨t, ht, .fragment hx⟩
  · rintro ⟨t, ht, ⟨hx⟩ | ⟨hf, hx⟩ | ⟨hx⟩⟩
    · exact .field ((h.fields x).mpr ⟨t, ht, hx⟩)
    · exact .inside ((h.fragments _).mpr ⟨t, ht, hf⟩) hx
    · exact .fragment ((h.fragments x).mpr ⟨t, ht, hx⟩)

/-- One step: either it leads nowhere, and there is nothing to take, or it leads to all that may be
taken together. -/
lemma follow_step (h : Merges P s) (step : SelectionStep) :
    (step.follow? s = none ∧ ∀ t x, P t → ¬ step.Takes t x)
      ∨ ∃ r, step.follow? s = some r ∧ Merges (fun x => ∃ t, P t ∧ step.Takes t x) r := by
  rw [step.follow?_eq]
  cases hmerged : Selection.mergeAll? (step.entries s) with
  | none =>
    refine .inl ⟨rfl, fun t x ht hx => ?_⟩
    have hmem : x ∈ step.entries s :=
      SelectionStep.mem_entries_iff.mpr (h.takes_iff.mpr ⟨t, ht, hx⟩)
    cases hentries : step.entries s with
    | nil => rw [hentries] at hmem; cases hmem
    | cons => rw [hentries] at hmerged; cases hmerged
  | some r =>
    exact .inr ⟨r, rfl, (mergeAll? hmerged).congr fun x =>
      SelectionStep.mem_entries_iff.trans h.takes_iff⟩

/-- A path: it leads to all that is reached from one of the selections together, if there is any. -/
lemma follow (h : Merges P s) (path : List SelectionStep) :
    (s.follow? path = none ∧ ∀ t u, P t → ¬ t.Leads path u)
      ∨ ∃ r, s.follow? path = some r ∧ Merges (fun u => ∃ t, P t ∧ t.Leads path u) r := by
  induction path generalizing P s with
  | nil =>
    refine .inr ⟨s, rfl, h.congr fun u => ⟨fun hu => ⟨u, hu, .here u⟩, ?_⟩⟩
    rintro ⟨t, ht, ⟨⟩⟩
    exact ht
  | cons step path ih =>
    have hcons : s.follow? (step :: path) = step.follow? s >>= (·.follow? path) := rfl
    rcases h.follow_step step with ⟨hnone, hnothing⟩ | ⟨r, hr, hmerges⟩
    · refine .inl ⟨by rw [hcons, hnone]; rfl, ?_⟩
      rintro t u ht (_ | ⟨htakes, _⟩)
      exact hnothing t _ ht htakes
    · rw [hcons, hr]
      rcases ih hmerges with ⟨hnone, hnothing⟩ | ⟨r', hr', hmerges'⟩
      · refine .inl ⟨hnone, ?_⟩
        rintro t u ht (_ | ⟨htakes, hrest⟩)
        exact hnothing _ u ⟨t, ht, htakes⟩ hrest
      · refine .inr ⟨r', hr', hmerges'.congr fun u => ⟨?_, ?_⟩⟩
        · rintro ⟨x, ⟨t, ht, htakes⟩, hrest⟩
          exact ⟨t, ht, .step htakes hrest⟩
        · rintro ⟨t, ht, _ | ⟨htakes, hrest⟩⟩
          exact ⟨_, ⟨t, ht, htakes⟩, hrest⟩

lemma isSome_follow?_iff (h : Merges P s) {path : List SelectionStep} :
    (s.follow? path).isSome ↔ ∃ t u, P t ∧ t.Leads path u := by
  rcases h.follow path with ⟨hnone, hnothing⟩ | ⟨r, hr, hmerges⟩
  · rw [hnone]
    exact ⟨nofun, fun ⟨t, u, ht, hu⟩ => (hnothing t u ht hu).elim⟩
  · rw [hr]
    obtain ⟨u, t, ht, hu⟩ := hmerges.inhabited
    exact ⟨fun _ => ⟨t, u, ht, hu⟩, fun _ => rfl⟩

end Merges

/-! ## Paths -/

/-- A path leads to a selection, with everything of one name merged at each step, if and only if it
leads somewhere when one entry is taken at each step. The selection has the fields and the fragments
of all that is reached in this second way, and no others. So a path exists in a merged selection if
and only if it exists in one of its parts. -/
theorem exists_path_iff_leads :
    (∀ (s : Selection) (path : List SelectionStep),
        ((s.follow? path).isSome ↔ ∃ t, s.Leads path t)
          ∧ ∀ x,
              ((∃ r, s.follow? path = some r ∧ x ∈ r.fields)
                  ↔ ∃ t, s.Leads path t ∧ x ∈ t.fields)
                ∧ ((∃ r, s.follow? path = some r ∧ x ∈ r.fragments)
                  ↔ ∃ t, s.Leads path t ∧ x ∈ t.fragments))
      ∧ ∀ (a b : Selection) (path : List SelectionStep),
          ((a.merged b).follow? path).isSome
            ↔ (a.follow? path).isSome ∨ (b.follow? path).isSome := by
  refine ⟨fun s path => ⟨?_, fun x => ?_⟩, fun a b path => ?_⟩
  · rw [(Merges.single s).isSome_follow?_iff]
    simp
  · rcases (Merges.single s).follow path with ⟨hnone, hnothing⟩ | ⟨r, hr, hmerges⟩
    · simp [hnone, fun u => hnothing s u rfl]
    · simp [hr, hmerges.fields, hmerges.fragments]
  · rw [((Merges.single a).merged (.single b)).isSome_follow?_iff,
      (Merges.single a).isSome_follow?_iff, (Merges.single b).isSome_follow?_iff]
    simp [or_and_right, exists_or]

end ClientGen
