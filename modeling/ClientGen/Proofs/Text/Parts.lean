import ClientGen.Text.Identifier
import ClientGen.Text.Split
import Mathlib.Data.List.Basic
import Mathlib.Tactic.Lemma

/-!
# Parts of texts

Cutting a text at a separator and putting parts together with the separator between them undo each
other: `intercalate_parts` for any text, `parts_intercalate` for parts without the separator. A text
is cut once at its last separator if it has one: `cutLast?_eq_some`, `cutLast?_eq_none`.
-/

namespace ClientGen.Text

variable {separator c : Char} {s t : String} {ss : List String}

/-! ## Characters -/

/-- What a text does not end with, its last part does not end with. -/
lemma getLast?_ne_of_append (as : List Char) {cs : List Char}
    (h : (as ++ cs).getLast? ≠ some c) : cs.getLast? ≠ some c := by
  intro hlast
  exact h (by simp [List.getLast?_append, hlast])

lemma splitAt_eq_splitOn (separator : Char) (cs : List Char) :
    splitAt separator cs = cs.splitOn separator := by
  induction cs with
  | nil => rfl
  | cons c cs ih =>
    unfold List.splitOn at ih ⊢
    rw [splitAt, List.splitOnP_cons_eq_if_modifyHead, ← ih]
    by_cases hc : c = separator
    · rw [if_pos hc, if_pos (beq_iff_eq.mpr hc)]
    · rw [if_neg hc, if_neg fun h => hc (beq_iff_eq.mp h)]
      cases hsplit : splitAt separator cs with
      | nil => exact absurd hsplit (splitAt_ne_nil separator cs)
      | cons part parts => rfl

/-- A text that is cut at a separator has the parts before it and the parts behind it. -/
lemma splitAt_append_cons (separator : Char) (before after : List Char) :
    splitAt separator (before ++ separator :: after)
      = splitAt separator before ++ splitAt separator after := by
  induction before with
  | nil => simp [splitAt]
  | cons c before ih =>
    rw [List.cons_append]
    by_cases hc : c = separator
    · simp only [splitAt, if_pos hc, ih, List.cons_append]
    · simp only [splitAt, if_neg hc, ih]
      cases hsplit : splitAt separator before with
      | nil => exact absurd hsplit (splitAt_ne_nil separator before)
      | cons part parts => rfl

/-- The characters of the parts are those of the text, but for the separator. -/
lemma mem_splitAt_iff {cs : List Char} :
    (∃ part ∈ splitAt separator cs, c ∈ part) ↔ c ∈ cs ∧ c ≠ separator := by
  induction cs with
  | nil => simp [splitAt]
  | cons d cs ih =>
    unfold splitAt
    by_cases hd : d = separator
    · rw [if_pos hd]
      have hskip : (∃ part ∈ [] :: splitAt separator cs, c ∈ part)
          ↔ ∃ part ∈ splitAt separator cs, c ∈ part := by simp
      rw [hskip, ih, List.mem_cons, ← hd]
      exact ⟨fun h => ⟨.inr h.1, h.2⟩, fun h => ⟨h.1.resolve_left h.2, h.2⟩⟩
    · rw [if_neg hd]
      cases hsplit : splitAt separator cs with
      | nil => exact absurd hsplit (splitAt_ne_nil separator cs)
      | cons part parts =>
        have hfirst : (∃ p ∈ (d :: part) :: parts, c ∈ p) ↔ c = d ∨ ∃ p ∈ part :: parts, c ∈ p := by
          simp only [List.mem_cons, exists_eq_or_imp, or_assoc]
        rw [hsplit] at ih
        rw [hfirst, ih, List.mem_cons]
        constructor
        · rintro (rfl | ⟨hc, hne⟩)
          · exact ⟨.inl rfl, hd⟩
          · exact ⟨.inr hc, hne⟩
        · rintro ⟨rfl | hc, hne⟩
          · exact .inl rfl
          · exact .inr ⟨hc, hne⟩

/-! ## Texts -/

lemma parts_ne_nil (separator : Char) (s : String) : parts separator s ≠ [] := by
  unfold parts
  rw [ne_eq, List.map_eq_nil_iff]
  exact splitAt_ne_nil separator s.toList

lemma mem_parts_iff :
    (∃ t ∈ parts separator s, c ∈ t.toList) ↔ c ∈ s.toList ∧ c ≠ separator := by
  rw [← mem_splitAt_iff]
  unfold parts
  simp only [List.mem_map, exists_exists_and_eq_and, String.toList_ofList]

lemma of_mem_parts (ht : t ∈ parts separator s) (hc : c ∈ t.toList) :
    c ∈ s.toList ∧ c ≠ separator :=
  mem_parts_iff.mp ⟨t, ht, hc⟩

lemma parts_append (separator : Char) (s t : String) :
    parts separator (s ++ String.singleton separator ++ t)
      = parts separator s ++ parts separator t := by
  have hchars : (s ++ String.singleton separator ++ t).toList
      = s.toList ++ separator :: t.toList := by simp
  unfold parts
  rw [hchars, splitAt_append_cons, List.map_append]

/-- The parts of a text make up the text. -/
theorem intercalate_parts (separator : Char) (s : String) :
    (String.singleton separator).intercalate (parts separator s) = s := by
  apply String.toList_injective
  have hchars : (parts separator s).map String.toList = s.toList.splitOn separator := by
    unfold parts
    rw [List.map_map, ← splitAt_eq_splitOn]
    exact (List.map_congr_left fun cs _ => String.toList_ofList).trans (List.map_id _)
  rw [String.toList_intercalate, hchars, String.toList_singleton]
  exact List.intercalate_splitOn separator

/-- Parts without the separator are those of the text that they make up. -/
theorem parts_intercalate (hss : ss ≠ []) (h : ∀ s ∈ ss, separator ∉ s.toList) :
    parts separator ((String.singleton separator).intercalate ss) = ss := by
  unfold parts
  rw [String.toList_intercalate, String.toList_singleton, splitAt_eq_splitOn,
    List.splitOn_intercalate separator, List.map_map]
  · exact (List.map_congr_left fun s _ => String.ofList_toList).trans (List.map_id _)
  · intro cs hcs
    obtain ⟨s, hs, rfl⟩ := List.mem_map.mp hcs
    exact h s hs
  · rwa [ne_eq, List.map_eq_nil_iff]

/-- A text without the separator is its only part. -/
lemma parts_of_not_mem (h : separator ∉ s.toList) : parts separator s = [s] := by
  have hparts := parts_intercalate (List.cons_ne_nil s [])
    fun t ht => List.mem_singleton.mp ht ▸ h
  rwa [String.intercalate_singleton] at hparts

/-! ## Cutting once -/

lemma cutFirst?_of_not_mem {cs : List Char} (h : separator ∉ cs) :
    cutFirst? separator cs = none := by
  induction cs with
  | nil => rfl
  | cons c cs ih =>
    obtain ⟨hc, hcs⟩ := not_or.mp (mt List.mem_cons.mpr h)
    rw [cutFirst?, if_neg (Ne.symm hc), ih hcs]
    rfl

lemma cutFirst?_append_cons {before : List Char} (h : separator ∉ before) (after : List Char) :
    cutFirst? separator (before ++ separator :: after) = some (before, after) := by
  induction before with
  | nil => simp [cutFirst?]
  | cons c before ih =>
    obtain ⟨hc, hbefore⟩ := not_or.mp (mt List.mem_cons.mpr h)
    rw [List.cons_append, cutFirst?, if_neg (Ne.symm hc), ih hbefore]
    rfl

/-- A text without the separator is not cut. -/
lemma cutLast?_eq_none {cs : List Char} (h : separator ∉ cs) : cutLast? separator cs = none := by
  unfold cutLast?
  rw [cutFirst?_of_not_mem (mt List.mem_reverse.mp h)]
  rfl

/-- Behind the last separator there is none. -/
lemma cutLast?_eq_some {after : List Char} (h : separator ∉ after) (before : List Char) :
    cutLast? separator (before ++ separator :: after) = some (before, after) := by
  have hreverse : (before ++ separator :: after).reverse
      = after.reverse ++ separator :: before.reverse := by simp
  unfold cutLast?
  rw [hreverse, cutFirst?_append_cons (mt List.mem_reverse.mp h)]
  simp

/-- A text with a separator has a last one. -/
lemma exists_last_separator (h : separator ∈ s.toList) :
    ∃ before after, s = before ++ String.singleton separator ++ after
      ∧ separator ∉ after.toList := by
  obtain ⟨after, before, hsplit, hlast⟩ := List.eq_append_cons_of_mem (List.mem_reverse.mpr h)
  refine ⟨String.ofList before.reverse, String.ofList after.reverse, ?_, by simpa using hlast⟩
  have hchars : s.toList = before.reverse ++ separator :: after.reverse := by
    rw [← List.reverse_reverse s.toList, hsplit]
    simp
  apply String.toList_injective
  rw [hchars]
  simp

/-! ## Identifiers -/

lemma isIdentifierPart_of_start (h : isIdentifierStart c = true) : isIdentifierPart c = true := by
  unfold isIdentifierPart
  rw [h, Bool.true_or]

/-- All characters of an identifier may stand inside of one. -/
lemma isIdentifierPart_of_mem {cs : List Char} (h : isIdentifierChars cs = true) (hc : c ∈ cs) :
    isIdentifierPart c = true := by
  unfold isIdentifierChars at h
  cases cs with
  | nil => cases hc
  | cons first rest =>
    obtain ⟨hstart, hrest⟩ := Bool.and_eq_true_iff.mp h
    rcases List.mem_cons.mp hc with rfl | hc
    · exact isIdentifierPart_of_start hstart
    · exact List.all_eq_true.mp hrest c hc

/-- So a separator that may not is in none. -/
lemma not_mem_of_isIdentifier (hseparator : isIdentifierPart separator = false)
    (h : isIdentifier s = true) : separator ∉ s.toList := by
  intro hmem
  have hpart := isIdentifierPart_of_mem h hmem
  rw [hseparator] at hpart
  cases hpart

end ClientGen.Text
