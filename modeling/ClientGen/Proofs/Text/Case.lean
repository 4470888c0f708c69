import ClientGen.Text.Case
import Mathlib.Tactic.Lemma

/-!
# What case mappings keep

Case mappings change letters. `eq_of_mem_mapped` shows of another character that only the character
itself is mapped to it, by a look at the tables.
-/

namespace ClientGen.Text

private lemma ofNat_ne {x : Char} (hx : x.toNat ≠ 0) {n : Nat} (h : n ≠ x.toNat) :
    Char.ofNat n ≠ x := by
  rintro rfl
  unfold Char.ofNat at h hx
  by_cases hvalid : n.isValidChar
  · rw [dif_pos hvalid] at h
    exact h rfl
  · rw [dif_neg hvalid] at hx
    exact hx rfl

/-- Where no entry of a mapping leads to a character and each of its runs stays above or below it,
only the character itself is mapped to it. -/
lemma eq_of_mem_mapped {specials : List (Nat × List Nat)} {runs : List CaseRun} {x c : Char}
    (hx : x.toNat ≠ 0) (hspecials : specials.all (fun e => e.2.all fun n => n ≠ x.toNat) = true)
    (hruns : runs.all (fun r => (x.toNat : Int) < r.first + r.shift
      ∨ r.last + r.shift < (x.toNat : Int)) = true)
    (h : x ∈ mapped specials runs c) : c = x := by
  unfold mapped at h
  split at h
  · rename_i e hspecial
    obtain ⟨n, hn, hmapped⟩ := List.mem_map.mp h
    have hall := List.all_eq_true.mp hspecials _ (List.mem_of_find?_eq_some hspecial)
    have hne := of_decide_eq_true (List.all_eq_true.mp hall n hn)
    exact (ofNat_ne hx hne hmapped).elim
  · split at h
    · rename_i r hrun
      have hcovers := List.find?_some hrun
      have hapart := of_decide_eq_true
        (List.all_eq_true.mp hruns _ (List.mem_of_find?_eq_some hrun))
      have hmove : r.move c ≠ x := by
        apply ofNat_ne hx
        simp only [CaseRun.covers, Bool.and_eq_true, decide_eq_true_eq] at hcovers
        omega
      exact (hmove (List.mem_singleton.mp h).symm).elim
    · exact (List.mem_singleton.mp h).symm

lemma eq_underscore_of_mem_upperOf {c : Char} (h : '_' ∈ upperOf c) : c = '_' :=
  eq_of_mem_mapped (by decide) (by decide +kernel) (by decide +kernel) h

end ClientGen.Text
