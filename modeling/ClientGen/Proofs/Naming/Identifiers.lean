import ClientGen.Proofs.Naming.Free
import ClientGen.Proofs.Naming.SnakeCase
import ClientGen.Text.Identifier

/-!
# Usable names

A name of the grammar is an identifier. A keyword takes an underscore at its end and is none then;
and whatever underscores a name takes to be free, it stays an identifier, and none of the keywords
ends with one.

* `isIdentifier_of_isName`: names of the grammar.
* `IsUsable.fresh`: a usable name stays one when it is made free.
-/

namespace ClientGen.Naming

open ClientGen.Document.Token (isName isNameStart isNamePart isName_cases)
open ClientGen.Text (isIdentifier isIdentifierStart isIdentifierPart)

variable {name : String}

/-! ## Identifiers -/

/-- A name of the grammar is an identifier. -/
theorem isIdentifier_of_isName (h : isName name = true) : isIdentifier name = true := by
  obtain ⟨first, rest, hchars, hfirst, hrest⟩ := isName_cases h
  have hpart : isNamePart first = true := Bool.or_eq_true_iff.mpr (.inl hfirst)
  have hstart : isIdentifierStart first = true := by
    have hall := forall_isNamePart
      (p := fun c => !isNameStart c || isIdentifierStart c) (by decide +kernel) hpart
    simpa [hfirst] using hall
  unfold isIdentifier
  rw [hchars]
  refine Bool.and_eq_true_iff.mpr ⟨hstart, List.all_eq_true.mpr fun c hc => ?_⟩
  exact forall_isNamePart (by decide +kernel) (hrest c hc)

/-- Underscores may stand at the end of an identifier. -/
lemma isIdentifier_candidate (h : isIdentifier name = true) (k : ℕ) :
    isIdentifier (candidate name k) = true := by
  unfold isIdentifier at h ⊢
  rw [toList_candidate]
  cases hchars : name.toList with
  | nil =>
    rw [hchars] at h
    cases h
  | cons first rest =>
    rw [hchars] at h
    obtain ⟨hfirst, hrest⟩ := Bool.and_eq_true_iff.mp h
    refine Bool.and_eq_true_iff.mpr ⟨hfirst, ?_⟩
    have hunderscores : (List.replicate k '_').all isIdentifierPart = true :=
      List.all_eq_true.mpr fun c hc => List.eq_of_mem_replicate hc ▸ rfl
    show (rest ++ List.replicate k '_').all isIdentifierPart = true
    rw [List.all_append, hrest, hunderscores]
    rfl

/-! ## Keywords -/

/-- No keyword ends with an underscore. -/
lemma getLast?_of_mem_keywords : ∀ w ∈ keywords, w.toList.getLast? ≠ some '_' := by
  decide

/-- What does not end with an underscore has not been a keyword. -/
lemma eq_of_avoidKeyword {word : String} (h : avoidKeyword name = word)
    (hlast : word.toList.getLast? ≠ some '_') : name = word := by
  unfold avoidKeyword at h
  split at h
  · rw [← h] at hlast
    simp at hlast
  · exact h

/-- An identifier that is no keyword. -/
structure IsUsable (s : String) : Prop where
  identifier : isIdentifier s = true
  unreserved : s ∉ keywords

namespace IsUsable

/-- Underscores at the end make no keyword. -/
lemma candidate (h : IsUsable name) (k : ℕ) : IsUsable (candidate name k) := by
  refine ⟨isIdentifier_candidate h.identifier k, fun hkeyword => h.unreserved ?_⟩
  obtain ⟨rfl, -⟩ := eq_of_candidate rfl (getLast?_of_mem_keywords _ hkeyword)
  exact hkeyword

/-- A usable name stays one when it is made free, whatever is taken. -/
theorem fresh (h : IsUsable name) (taken : List String) : IsUsable (fresh taken name) := by
  obtain ⟨k, -, hfound, -⟩ := fresh_eq_candidate taken name
  rw [hfound]
  exact h.candidate k

end IsUsable

/-- What has taken an underscore if it was a keyword is none. -/
theorem isUsable_avoidKeyword (h : isIdentifier name = true) : IsUsable (avoidKeyword name) := by
  unfold avoidKeyword
  split
  · have hkept : name ++ "_" = candidate name 1 := rfl
    refine ⟨hkept ▸ isIdentifier_candidate h 1, fun hkeyword => ?_⟩
    have hlast := getLast?_of_mem_keywords _ hkeyword
    simp at hlast
  · rename_i hfree
    exact ⟨h, by simpa using hfree⟩

end ClientGen.Naming
