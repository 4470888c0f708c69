import ClientGen.Naming.Words
import ClientGen.Proofs.Document.Lexing
import Mathlib.Data.List.Basic

/-!
# Snake case of names of the grammar

The words of a name are parted by underscores, and capital letters become small ones. Nothing else
is added, so the snake case of a name of the grammar is made of the same characters as such names
are.

* `forall_isNamePart` settles a question about these characters by a look at each of them.
* `isNamePart_of_mem_snakeCase` and `isName_snakeCase` are what snake case keeps.
-/

namespace ClientGen.Naming

open ClientGen.Document.Token (isName isNameStart isNamePart isName_cases)

variable {c : Char} {cs : List Char}

/-! ## Characters of names -/

lemma toNat_of_isNamePart (h : isNamePart c = true) : c.toNat < 128 := by
  unfold isNamePart isNameStart Char.isAlpha Char.isUpper Char.isLower Char.isDigit at h
  simp [UInt32.le_iff_toNat_le] at h
  rcases h with ((h | h) | rfl) | h
  · omega
  · omega
  · decide
  · omega

/-- What holds of each letter, digit and of the underscore. -/
theorem forall_isNamePart {p : Char → Bool}
    (h : ((List.range 128).map Char.ofNat).all (fun c => !isNamePart c || p c) = true)
    (hc : isNamePart c = true) : p c = true := by
  have hmem : c ∈ (List.range 128).map Char.ofNat :=
    List.mem_map.mpr ⟨c.toNat, List.mem_range.mpr (toNat_of_isNamePart hc), Char.ofNat_toNat c⟩
  simpa [hc] using List.all_eq_true.mp h c hmem

lemma isNamePart_of_mem_name {name : String} (h : isName name = true) :
    ∀ c ∈ name.toList, isNamePart c = true := by
  obtain ⟨first, rest, hchars, hstart, hrest⟩ := isName_cases h
  rw [hchars]
  intro c hc
  rcases List.mem_cons.mp hc with rfl | hc
  · exact Bool.or_eq_true_iff.mpr (.inl hstart)
  · exact hrest c hc

lemma isName_of_toList {name : String} {first : Char} {rest : List Char}
    (hchars : name.toList = first :: rest) (hfirst : isNameStart first = true)
    (hrest : ∀ c ∈ rest, isNamePart c = true) : isName name = true := by
  unfold isName
  rw [hchars]
  exact Bool.and_eq_true_iff.mpr ⟨hfirst, List.all_eq_true.mpr hrest⟩

/-! ## Words -/

mutual

private theorem mem_go (first : Char) (cs : List Char) (h : c ∈ splitCapitalised.go first cs) :
    c ∈ first :: cs ∨ c = '_' := by
  match cs with
  | [] => exact .inl h
  | [u] => exact .inl h
  | u :: l :: cs =>
    unfold splitCapitalised.go at h
    split at h
    · simp only [List.mem_cons] at h ⊢
      rcases h with h | h | h | h | h
      · exact .inl (.inl h)
      · exact .inr h
      · exact .inl (.inr (.inl h))
      · exact .inl (.inr (.inr (.inl h)))
      · exact (mem_run cs h).imp_left fun h => .inr (.inr (.inr h))
    · rcases List.mem_cons.mp h with h | h
      · exact .inl (h ▸ List.mem_cons_self)
      · exact (mem_go u (l :: cs) h).imp_left (List.mem_cons_of_mem _)

private theorem mem_run (cs : List Char) (h : c ∈ splitCapitalised.run cs) :
    c ∈ cs ∨ c = '_' := by
  match cs with
  | [] => exact .inl h
  | l :: cs =>
    unfold splitCapitalised.run at h
    split at h
    · rcases List.mem_cons.mp h with h | h
      · exact .inl (h ▸ List.mem_cons_self)
      · exact (mem_run cs h).imp_left (List.mem_cons_of_mem _)
    · exact mem_go l cs h

end

lemma mem_splitCapitalised (h : c ∈ splitCapitalised cs) : c ∈ cs ∨ c = '_' := by
  cases cs with
  | nil => cases h
  | cons first cs => exact mem_go first cs h

lemma mem_splitCamel (h : c ∈ splitCamel cs) : c ∈ cs ∨ c = '_' := by
  induction cs using splitCamel.induct with
  | case1 a b cs hborder ih =>
    rw [splitCamel, if_pos hborder] at h
    simp only [List.mem_cons] at h ih ⊢
    rcases h with h | h | h
    · exact .inl (.inl h)
    · exact .inr h
    · exact (ih h).imp_left .inr
  | case2 a b cs hborder ih =>
    rw [splitCamel, if_neg hborder] at h
    rcases List.mem_cons.mp h with h | h
    · exact .inl (h ▸ List.mem_cons_self)
    · exact (ih h).imp_left (List.mem_cons_of_mem _)
  | case3 cs hshort =>
    rw [splitCamel.eq_2 cs hshort] at h
    exact .inl h

/-! ## Small letters -/

lemma lowerOf_of_isNamePart (h : isNamePart c = true) : Text.lowerOf c = [c.toLower] := by
  have hall : decide (Text.lowerOf c = [c.toLower]) = true :=
    forall_isNamePart (p := fun c => decide (Text.lowerOf c = [c.toLower])) (by decide +kernel) h
  exact of_decide_eq_true hall

/-- The snake case of letters, digits and underscores are the words of the name in small letters. -/
lemma toList_snakeCase {name : String} (h : ∀ c ∈ name.toList, isNamePart c = true) :
    (snakeCase name).toList = (splitCamel (splitCapitalised name.toList)).map Char.toLower
      ∧ ∀ c ∈ splitCamel (splitCapitalised name.toList), isNamePart c = true := by
  have hwords : ∀ d ∈ splitCamel (splitCapitalised name.toList), isNamePart d = true := by
    intro d hd
    rcases mem_splitCamel hd with hd | rfl
    · rcases mem_splitCapitalised hd with hd | rfl
      · exact h d hd
      · rfl
    · rfl
  have hsigma : 'Σ' ∉ (String.ofList (splitCamel (splitCapitalised name.toList))).toList := by
    rw [String.toList_ofList]
    intro hmem
    exact absurd (hwords _ hmem) (by decide)
  refine ⟨?_, hwords⟩
  unfold snakeCase
  rw [Text.lower_of_not_mem hsigma, String.toList_ofList, String.toList_ofList,
    List.map_eq_flatMap]
  exact List.flatMap_congr fun d hd => lowerOf_of_isNamePart (hwords d hd)

/-- The snake case of letters, digits and underscores is made of such characters. -/
theorem isNamePart_of_mem_snakeCase {name : String} (h : ∀ c ∈ name.toList, isNamePart c = true)
    (hc : c ∈ (snakeCase name).toList) : isNamePart c = true := by
  obtain ⟨hsnake, hwords⟩ := toList_snakeCase h
  rw [hsnake] at hc
  obtain ⟨d, hd, rfl⟩ := List.mem_map.mp hc
  exact forall_isNamePart (p := fun d => isNamePart d.toLower) (by decide +kernel) (hwords d hd)

/-! ## First characters -/

private lemma exists_go (first : Char) (cs : List Char) :
    ∃ rest, splitCapitalised.go first cs = first :: rest := by
  match cs with
  | [] => exact ⟨[], rfl⟩
  | [u] => exact ⟨[u], rfl⟩
  | u :: l :: cs =>
    unfold splitCapitalised.go
    split
    · exact ⟨_, rfl⟩
    · exact ⟨_, rfl⟩

/-- Nothing comes before the first character. -/
lemma exists_words (first : Char) (cs : List Char) :
    ∃ rest, splitCamel (splitCapitalised (first :: cs)) = first :: rest := by
  obtain ⟨rest, hrest⟩ := exists_go first cs
  rw [splitCapitalised, hrest]
  cases rest with
  | nil => exact ⟨[], rfl⟩
  | cons u rest =>
    unfold splitCamel
    split
    · exact ⟨_, rfl⟩
    · exact ⟨_, rfl⟩

/-- The snake case of a name of the grammar is one. -/
theorem isName_snakeCase {name : String} (h : isName name = true) :
    isName (snakeCase name) = true := by
  obtain ⟨first, cs, hchars, hstart, -⟩ := isName_cases h
  obtain ⟨rest, hrest⟩ := exists_words first cs
  obtain ⟨hsnake, hwords⟩ := toList_snakeCase (isNamePart_of_mem_name h)
  rw [hchars, hrest] at hsnake
  have hfirst : isNameStart first.toLower = true := by
    have hall := forall_isNamePart
      (p := fun d => !isNameStart d || isNameStart d.toLower) (by decide +kernel)
      (isNamePart_of_mem_name h first (by simp [hchars]))
    simpa [hstart] using hall
  refine isName_of_toList hsnake hfirst fun d hd => ?_
  exact isNamePart_of_mem_snakeCase (isNamePart_of_mem_name h)
    (hsnake ▸ List.mem_cons_of_mem _ hd)

end ClientGen.Naming
