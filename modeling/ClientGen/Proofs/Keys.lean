import Mathlib.Data.List.Nodup

/-!
# What is looked up by a key

Lists in which all keys are different: what a search by key finds there is the one entry of that
key, and two such lists in which every search finds the same have the same entries.
-/

namespace ClientGen

variable {α β : Type} [DecidableEq β] {key : α → β} {as bs : List α}

/-- Where all keys are different, the entry of a key is the only one. -/
lemma filter_eq_singleton (h : (as.map key).Nodup) {a : α} (ha : a ∈ as) :
    as.filter (key · = key a) = [a] := by
  induction as with
  | nil => cases ha
  | cons b bs ih =>
    obtain ⟨hnew, hnodup⟩ := List.nodup_cons.mp h
    rcases List.mem_cons.mp ha with rfl | ha
    · have hnone : bs.filter (key · = key a) = [] := by
        refine List.filter_eq_nil_iff.mpr fun c hc hkey => hnew ?_
        exact of_decide_eq_true hkey ▸ List.mem_map_of_mem hc
      rw [List.filter_cons_of_pos (by simp), hnone]
    · have hne : key b ≠ key a := fun hkey => hnew (hkey ▸ List.mem_map_of_mem ha)
      rw [List.filter_cons_of_neg (by simpa using hne)]
      exact ih hnodup ha

lemma find?_eq_some (h : (as.map key).Nodup) {a : α} (ha : a ∈ as) :
    as.find? (key · = key a) = some a := by
  rw [← List.head?_filter, filter_eq_singleton h ha]
  rfl

/-- With different keys, lists in which the same is found are the same up to their order. -/
lemma perm_of_find?_eq (ha : (as.map key).Nodup) (hb : (bs.map key).Nodup)
    (h : ∀ k, as.find? (key · = k) = bs.find? (key · = k)) : as.Perm bs := by
  rw [List.perm_ext_iff_of_nodup ha.of_map hb.of_map]
  intro a
  constructor
  · intro hmem
    have hfound := find?_eq_some ha hmem
    rw [h] at hfound
    exact List.mem_of_find?_eq_some hfound
  · intro hmem
    have hfound := find?_eq_some hb hmem
    rw [← h] at hfound
    exact List.mem_of_find?_eq_some hfound

end ClientGen
