import ClientGen.Text.CaseTables

/-!
# Case

Upper, lower and title case of whole texts. A character may become several (`ß` becomes
`SS`), and the lower case of a capital sigma depends on its neighbours: at the end of a word
it is `ς`.
-/

namespace ClientGen.Text

/-! ## One character -/

/-- What a mapping makes of a character: its own entry, if there is one, or else its run. -/
def mapped (specials : List (Nat × List Nat)) (runs : List CaseRun) (c : Char) : List Char :=
  match specials.find? (·.1 == c.toNat) with
  | some (_, cs) => cs.map Char.ofNat
  | none =>
    match runs.find? (·.covers c) with
    | some r => [r.move c]
    | none => [c]

/-- The upper case of a character. -/
def upperOf (c : Char) : List Char :=
  mapped upperSpecials upperRuns c

/-- The lower case of a character that stands alone. -/
def lowerOf (c : Char) : List Char :=
  mapped lowerSpecials lowerRuns c

/-- The title case of a character: mostly its upper case, but `ǆ` becomes `ǅ`. -/
def titleOf (c : Char) : List Char :=
  mapped (titleSpecials ++ upperSpecials) upperRuns c

/-- In upper case. -/
def isUpper (c : Char) : Bool :=
  upperLetterRuns.any (·.covers c)

/-! ## Whole texts -/

/-- The first character that is not ignored around a sigma has a case. -/
private def meetsCased : List Char → Bool
  | [] => false
  | c :: cs => if inRanges caseIgnorableRanges c then meetsCased cs else inRanges casedRanges c

/-- Lower case, with the text before the current place in reverse. -/
private def lowerFrom (before : List Char) : List Char → List Char
  | [] => []
  | c :: cs =>
    (if c == 'Σ' && meetsCased before && !meetsCased cs then ['ς'] else lowerOf c)
      ++ lowerFrom (c :: before) cs

/-- The upper case of a text. -/
def upper (s : String) : String :=
  String.ofList (s.toList.flatMap upperOf)

/-- The lower case of a text. -/
def lower (s : String) : String :=
  String.ofList (lowerFrom [] s.toList)

private theorem mem_lowerFrom {c : Char} {before cs : List Char} (h : c ∈ lowerFrom before cs) :
    c = 'ς' ∨ ∃ d ∈ cs, c ∈ lowerOf d := by
  induction cs generalizing before with
  | nil => cases h
  | cons d cs ih =>
    rcases List.mem_append.mp h with h | h
    · split at h
      · exact .inl (List.mem_singleton.mp h)
      · exact .inr ⟨d, List.mem_cons_self, h⟩
    · rcases ih h with hsigma | ⟨e, he, hc⟩
      · exact .inl hsigma
      · exact .inr ⟨e, List.mem_cons_of_mem _ he, hc⟩

/-- But for the sigma at the end of a word, each character of the lower case of a text is one of
the lower case of a character of it. -/
theorem mem_lower {c : Char} {s : String} (h : c ∈ (lower s).toList) :
    c = 'ς' ∨ ∃ d ∈ s.toList, c ∈ lowerOf d := by
  rw [lower, String.toList_ofList] at h
  exact mem_lowerFrom h

private theorem lowerFrom_of_not_mem {before cs : List Char} (h : 'Σ' ∉ cs) :
    lowerFrom before cs = cs.flatMap lowerOf := by
  induction cs generalizing before with
  | nil => rfl
  | cons c cs ih =>
    have hc : (c == 'Σ') = false := beq_false_of_ne fun heq => h (heq ▸ List.mem_cons_self)
    rw [lowerFrom, List.flatMap_cons, ih fun hmem => h (List.mem_cons_of_mem _ hmem), hc]
    rfl

/-- Without a capital sigma each character has a lower case of its own. -/
theorem lower_of_not_mem {s : String} (h : 'Σ' ∉ s.toList) :
    lower s = String.ofList (s.toList.flatMap lowerOf) := by
  rw [lower, lowerFrom_of_not_mem h]

/-- The first character in title case and the others in lower case. -/
def sentenceCase (s : String) : String :=
  match s.toList with
  | [] => ""
  | c :: cs => String.ofList (titleOf c ++ lowerFrom [c] cs)

/-- The first character in upper case and the others as they are: `movieTitle` becomes
`MovieTitle`. -/
def capitalized (s : String) : String :=
  match s.toList with
  | [] => ""
  | c :: cs => String.ofList (upperOf c ++ cs)

end ClientGen.Text
