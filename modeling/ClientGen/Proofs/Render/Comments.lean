import ClientGen.Render.Descriptions
import Mathlib.Data.List.Chain
import Mathlib.Data.List.DropRight
import Mathlib.Tactic.Common

/-!
# The text of a comment

A comment is brought into its form in steps: what cannot stand in it is dropped, the blanks become
single spaces, what is too long is cut, and the blanks at its ends go. No step undoes what those
before it have done, and each leaves a text alone that has the form already.

* `isCommentText_commentChars`: what comes out has the form.
* `IsCommentText.commentChars_eq`: what has the form is left alone.
-/

namespace ClientGen.Render

open Text (isBlank strippedChars)

/-- The characters at which a text is split into lines. -/
def lineBreaks : List Char :=
  ['\n', '\r', '\x0b', '\x0c', '\x1c', '\x1d', '\x1e', '\x85', '\u2028', '\u2029']

/-- No blanks but single spaces. -/
structure IsSpaced (cs : List Char) : Prop where
  space : ∀ c ∈ cs, isBlank c → c = ' '
  single : cs.IsChain fun a b => ¬(isBlank a ∧ isBlank b)

/-- The form of a comment: one line without asterisks, with single spaces between its words,
that is not too long. -/
structure IsCommentText (cs : List Char) : Prop extends IsSpaced cs where
  kept : ∀ c ∈ cs, c ≠ '\r' ∧ c ≠ '*'
  short : cs.length ≤ commentLimit
  stripped : strippedChars cs = cs

lemma isBlank_of_mem_lineBreaks {c : Char} (h : c ∈ lineBreaks) : isBlank c ∧ c ≠ ' ' := by
  have hall : lineBreaks.all (fun c => isBlank c && c != ' ') = true := by decide
  simpa using List.all_eq_true.mp hall c h

/-- What has the form of a comment is on one line. -/
lemma IsCommentText.not_mem_lineBreaks {cs : List Char} (h : IsCommentText cs) {c : Char}
    (hc : c ∈ cs) : c ∉ lineBreaks := by
  intro hbreak
  obtain ⟨hblank, hspace⟩ := isBlank_of_mem_lineBreaks hbreak
  exact hspace (h.space c hc hblank)

/-! ## Single spaces -/

/-- A part of a text without blanks but single spaces is such a text. -/
lemma IsSpaced.part {cs ds : List Char} (h : IsSpaced cs) (hds : ds <:+: cs) : IsSpaced ds where
  space c hc := h.space c (hds.subset hc)
  single := List.IsChain.infix h.single hds

/-- Two such texts make up another if no two blanks meet. -/
lemma IsSpaced.append {cs ds : List Char} (hcs : IsSpaced cs) (hds : IsSpaced ds)
    (hmeet : ∀ c ∈ cs.getLast?, ∀ d ∈ ds.head?, ¬(isBlank c ∧ isBlank d)) :
    IsSpaced (cs ++ ds) where
  space c hc := (List.mem_append.mp hc).elim (hcs.space c) (hds.space c)
  single := List.isChain_append.mpr ⟨hcs.single, hds.single, hmeet⟩

lemma isSpaced_singleton {c : Char} (h : isBlank c → c = ' ') : IsSpaced [c] where
  space _ hd := by
    obtain rfl := List.mem_singleton.mp hd
    exact h
  single := .singleton c

/-- What is written after a space does not begin with one. -/
lemma head?_collapseBlanks (cs : List Char) : ∀ c ∈ (collapseBlanks true cs).head?, ¬isBlank c := by
  induction cs with
  | nil => simp [collapseBlanks]
  | cons c cs ih =>
    unfold collapseBlanks
    split
    · exact ih
    · simp_all

lemma isSpaced_collapseBlanks (after : Bool) (cs : List Char) :
    IsSpaced (collapseBlanks after cs) := by
  induction cs generalizing after with
  | nil => exact ⟨by simp [collapseBlanks], by simp [collapseBlanks]⟩
  | cons c cs ih =>
    unfold collapseBlanks
    split
    · split
      · exact ih true
      · exact (isSpaced_singleton fun _ => rfl).append (ih true) fun _ _ d hd hboth =>
          head?_collapseBlanks cs d hd hboth.2
    · rename_i hc
      exact (isSpaced_singleton fun h => absurd h hc).append (ih false) (by simp_all)

/-- Single spaces stay, unless the text begins with one after another. -/
lemma collapseBlanks_of_isSpaced {after : Bool} {cs : List Char} (h : IsSpaced cs)
    (hhead : after → ∀ c ∈ cs.head?, ¬isBlank c) : collapseBlanks after cs = cs := by
  induction cs generalizing after with
  | nil => rfl
  | cons c cs ih =>
    have hcs : IsSpaced cs := h.part (List.suffix_cons c cs).isInfix
    have hnext : ∀ d ∈ cs.head?, ¬(isBlank c ∧ isBlank d) := (List.isChain_cons.mp h.single).1
    unfold collapseBlanks
    by_cases hc : isBlank c
    · have hafter : ¬after := fun hafter => hhead hafter c rfl hc
      rw [if_pos hc, if_neg hafter, h.space c List.mem_cons_self hc,
        ih hcs fun _ d hd hblank => hnext d hd ⟨hc, hblank⟩]
    · rw [if_neg hc, ih hcs (by simp)]

/-! ## Blanks at the ends -/

lemma strippedChars_begins (cs : List Char) : strippedChars cs <+: cs.dropWhile isBlank :=
  List.rdropWhile_prefix isBlank _

lemma isInfix_strippedChars (cs : List Char) : strippedChars cs <:+: cs :=
  (strippedChars_begins cs).isInfix.trans (List.dropWhile_suffix isBlank).isInfix

/-- There are no blanks left at the ends. -/
lemma strippedChars_strippedChars (cs : List Char) :
    strippedChars (strippedChars cs) = strippedChars cs := by
  have hfirst : (strippedChars cs).dropWhile isBlank = strippedChars cs := by
    cases hcs : strippedChars cs with
    | nil => rfl
    | cons c ds =>
      obtain ⟨more, hmore⟩ := hcs ▸ strippedChars_begins cs
      have hc : ¬isBlank c := by
        have hhead := List.head?_dropWhile_not isBlank cs
        rw [← hmore] at hhead
        simpa using hhead
      exact List.dropWhile_cons_of_neg hc
  have hlast : (strippedChars cs).rdropWhile isBlank = strippedChars cs :=
    List.rdropWhile_idempotent isBlank _
  calc strippedChars (strippedChars cs)
      = ((strippedChars cs).dropWhile isBlank).rdropWhile isBlank := rfl
    _ = strippedChars cs := by rw [hfirst, hlast]

/-! ## Comments -/

lemma isBlank_point : isBlank '.' = false := by
  decide

lemma isSpaced_truncated {cs : List Char} (h : IsSpaced cs) : IsSpaced (truncated cs) := by
  unfold truncated
  split
  · have hpoints : IsSpaced ['.', '.', '.'] := ⟨by simp [isBlank_point], by simp [isBlank_point]⟩
    have hcut := (List.take_prefix (commentLimit - 3) cs).isInfix
    refine (h.part hcut).append hpoints ?_
    rintro c - d hd ⟨-, hblank⟩
    obtain rfl : '.' = d := by simpa using hd
    simp [isBlank_point] at hblank
  · exact h

lemma length_truncated (cs : List Char) : (truncated cs).length ≤ commentLimit := by
  unfold truncated commentLimit
  split
  · rw [List.length_append, List.length_take]
    show min 117 _ + 3 ≤ 120
    omega
  · omega

lemma mem_truncated {cs : List Char} {c : Char} (hc : c ∈ truncated cs) : c ∈ cs ∨ c = '.' := by
  unfold truncated at hc
  split at hc
  · refine (List.mem_append.mp hc).imp List.mem_of_mem_take fun hpoint => ?_
    simpa using hpoint
  · exact .inl hc

lemma mem_collapseBlanks {after : Bool} {cs : List Char} {c : Char}
    (hc : c ∈ collapseBlanks after cs) : c ∈ cs ∨ c = ' ' := by
  induction cs generalizing after with
  | nil => exact .inl hc
  | cons d ds ih =>
    unfold collapseBlanks at hc
    split at hc
    · split at hc
      · exact (ih hc).imp_left (List.mem_cons_of_mem d)
      · rcases List.mem_cons.mp hc with rfl | hc
        · exact .inr rfl
        · exact (ih hc).imp_left (List.mem_cons_of_mem d)
    · rcases List.mem_cons.mp hc with rfl | hc
      · exact .inl List.mem_cons_self
      · exact (ih hc).imp_left (List.mem_cons_of_mem d)

/-- The text of a comment has the form of one. -/
theorem isCommentText_commentChars (cs : List Char) : IsCommentText (commentChars cs) := by
  unfold commentChars
  set kept := cs.filter fun c => c != '\r' && c != '*'
  set whole := truncated (collapseBlanks false kept)
  have hpart : strippedChars whole <:+: whole := isInfix_strippedChars whole
  refine ⟨(isSpaced_truncated (isSpaced_collapseBlanks false kept)).part hpart, ?_,
    hpart.length_le.trans (length_truncated _), strippedChars_strippedChars whole⟩
  intro c hc
  rcases mem_truncated (hpart.subset hc) with hc | rfl
  · rcases mem_collapseBlanks hc with hc | rfl
    · simpa using (List.mem_filter.mp hc).2
    · decide
  · decide

/-- What has the form of a comment is left alone. -/
theorem IsCommentText.commentChars_eq {cs : List Char} (h : IsCommentText cs) :
    commentChars cs = cs := by
  have hkept : (cs.filter fun c => c != '\r' && c != '*') = cs :=
    List.filter_eq_self.mpr fun c hc => by simpa using h.kept c hc
  have hshort : truncated cs = cs := if_neg (by have := h.short; omega)
  unfold commentChars
  dsimp only
  rw [hkept, collapseBlanks_of_isSpaced h.toIsSpaced (by simp), hshort, h.stripped]

end ClientGen.Render
