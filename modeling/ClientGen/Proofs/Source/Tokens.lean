import ClientGen.Proofs.Source.Reads

/-!
# Every reading ends

A token takes at least one character from the front of a text. So the length of the text bounds the
steps of its reading, and the fuel that `tokens?` begins with is enough: with more of it nothing
else is read.

* `length_lt_of_token?` says that a token takes something.
* `tokensFrom?_add` says that fuel beyond the bound does not count.
* `tokens?_of_reads` leads from a reading up to the end of a text to the tokens of the text.
-/

namespace ClientGen.Source

variable {cs rest content digits : List Char} {c : Char} {t : Token} {r : Reading}

/-! ## Numbers -/

lemma suffix_of_digitsOf? {isDigit : Char → Bool} (h : digitsOf? isDigit cs = some (digits, rest)) :
    rest <:+ cs := by
  unfold digitsOf? at h
  dsimp only at h
  split at h
  · cases h
  · cases h
    exact List.drop_suffix _ _

lemma suffix_skipFraction (cs : List Char) : skipFraction cs <:+ cs := by
  unfold skipFraction
  split
  · exact suffix_of_digitsOf? ‹_›
  · exact List.suffix_rfl

lemma suffix_skipExponent (cs : List Char) : skipExponent cs <:+ cs := by
  unfold skipExponent
  split
  · rename_i e more
    split
    · dsimp only
      split
      · rename_i hdigits
        have hrest := suffix_of_digitsOf? hdigits
        refine hrest.trans ?_
        split
        · exact ⟨[e, '+'], rfl⟩
        · exact ⟨[e, '-'], rfl⟩
        · exact List.suffix_cons _ _
      · exact List.suffix_rfl
    · exact List.suffix_rfl
  · exact List.suffix_rfl

/-- What may be left out at the front is. -/
lemma suffix_ite_drop (p : Prop) [Decidable p] (cs : List Char) :
    (if p then cs.drop 1 else cs) <:+ cs := by
  split
  · exact List.drop_suffix _ _
  · exact List.suffix_rfl

lemma suffix_of_basedNumber? (h : basedNumber? cs = some rest) : rest <:+ cs.drop 2 := by
  have hafter : ∀ {isDigit : Char → Bool} {more : List Char},
      (digitsOf? isDigit (if more.head? = some '_' then more.drop 1 else more)).map (·.2)
        = some rest → rest <:+ more := by
    intro isDigit more h
    obtain ⟨⟨_, _⟩, hdigits, rfl⟩ := Option.map_eq_some_iff.mp h
    exact (suffix_of_digitsOf? hdigits).trans (suffix_ite_drop _ _)
  unfold basedNumber? at h
  dsimp only at h
  split at h
  · split at h
    · exact hafter h
    · split at h
      · exact hafter h
      · split at h
        · exact hafter h
        · cases h
  · cases h

/-- A number has a whole part, or begins with its point. -/
lemma suffix_of_plainNumber? {isImaginary : Bool} (h : plainNumber? cs = some (isImaginary, rest)) :
    rest <:+ cs ∧ (cs.head? = some '.' → rest.length < cs.length) := by
  unfold plainNumber? at h
  dsimp only at h
  have hwhole : ((digitsOf? Char.isDigit cs).getD ([], cs)).2 <:+ cs := by
    cases hdigits : digitsOf? Char.isDigit cs with
    | none => exact List.suffix_rfl
    | some p => exact suffix_of_digitsOf? hdigits
  split at h
  · rename_i more hmore
    dsimp only at h
    split at h
    · cases h
    · obtain ⟨_, rfl⟩ := Prod.mk.inj (Option.some.inj h)
      rw [hmore] at hwhole
      have hfraction := suffix_skipFraction more
      have hexponent := (suffix_skipExponent _).trans hfraction
      constructor
      · exact (suffix_ite_drop _ _).trans (hexponent.trans ((List.suffix_cons _ _).trans hwhole))
      · exact fun _ => ((suffix_ite_drop _ _).trans hexponent).length_le.trans_lt hwhole.length_le
  · rename_i hmore
    dsimp only at h
    split at h
    · cases h
    · obtain ⟨_, rfl⟩ := Prod.mk.inj (Option.some.inj h)
      refine ⟨(suffix_ite_drop _ _).trans ((suffix_skipExponent _).trans hwhole), fun hpoint => ?_⟩
      -- what begins with a point has no whole part
      obtain ⟨more, rfl⟩ := List.head?_eq_some_iff.mp hpoint
      exact absurd rfl (hmore more)

/-- Nothing goes on after a number that could belong to it. -/
lemma not_endsNumber_digit (hc : c.isDigit = true) (cs : List Char) :
    endsNumber (c :: cs) = false := by
  have hword : isWordChar c = true := by
    simp [isWordChar, Char.isAlphanum, hc]
  have hwords : ∀ w ∈ wordsAfterNumber, w.toList.head?.all (!·.isDigit) = true := by decide
  unfold endsNumber
  dsimp only
  rw [List.takeWhile_cons_of_pos hword, List.isEmpty_cons, Bool.false_or]
  refine Bool.eq_false_iff.mpr fun hmem => ?_
  have hhead := hwords _ (List.contains_iff_mem.mp hmem)
  simp [hc] at hhead

lemma length_lt_of_number? (hbegins : c.isDigit = true ∨ c = '.')
    (h : number? (c :: cs) = some (t, rest)) : rest.length < (c :: cs).length := by
  have hnumber : ∃ isImaginary, (basedNumber? (c :: cs) = some rest
      ∨ plainNumber? (c :: cs) = some (isImaginary, rest)) ∧ endsNumber rest = true := by
    unfold number? at h
    cases hbased : basedNumber? (c :: cs) with
    | some after =>
      rw [hbased] at h
      obtain ⟨hends, heq⟩ := Option.ite_none_right_eq_some.mp h
      cases heq
      exact ⟨false, .inl rfl, hends⟩
    | none =>
      rw [hbased] at h
      obtain ⟨⟨isImaginary, after⟩, hplain, h⟩ := Option.bind_eq_some_iff.mp h
      obtain ⟨hends, heq⟩ := Option.ite_none_right_eq_some.mp h
      cases heq
      exact ⟨isImaginary, .inr hplain, hends⟩
  obtain ⟨isImaginary, hbased | hplain, hends⟩ := hnumber
  · have hle := (suffix_of_basedNumber? hbased).length_le
    simp only [List.length_drop, List.length_cons] at hle ⊢
    omega
  · obtain ⟨hsuffix, hpoint⟩ := suffix_of_plainNumber? hplain
    rcases hbegins with hdigit | rfl
    · refine lt_of_le_of_ne hsuffix.length_le fun hsame => ?_
      rw [hsuffix.eq_of_length hsame, not_endsNumber_digit hdigit] at hends
      cases hends
    · exact hpoint rfl

/-! ## Strings -/

lemma length_lt_of_shortString? {quote : Char} (h : shortString? quote cs = some (content, rest)) :
    rest.length < cs.length := by
  fun_induction shortString? quote cs generalizing content with
  | case1 => cases h
  | case2 d cs ih =>
    obtain ⟨⟨s, r⟩, hrest, heq⟩ := Option.map_eq_some_iff.mp h
    cases heq
    have hlt := ih hrest
    rw [List.length_cons, List.length_cons]
    omega
  | case3 => cases h; simp
  | case4 => cases h
  | case5 d cs _ _ _ ih =>
    obtain ⟨⟨s, r⟩, hrest, heq⟩ := Option.map_eq_some_iff.mp h
    cases heq
    exact (ih hrest).trans (Nat.lt_succ_self _)

lemma length_lt_of_longString? {quote : Char} (h : longString? quote cs = some (content, rest)) :
    rest.length < cs.length := by
  fun_induction longString? quote cs generalizing content with
  | case1 => cases h
  | case2 d cs ih =>
    obtain ⟨⟨s, r⟩, hrest, heq⟩ := Option.map_eq_some_iff.mp h
    cases heq
    have hlt := ih hrest
    rw [List.length_cons, List.length_cons]
    omega
  | case3 =>
    cases h
    simp only [List.length_cons, List.length_drop]
    omega
  | case4 d cs _ _ ih =>
    obtain ⟨⟨s, r⟩, hrest, heq⟩ := Option.map_eq_some_iff.mp h
    cases heq
    exact (ih hrest).trans (Nat.lt_succ_self _)

lemma length_lt_of_string? (h : string? cs = some (content, rest)) : rest.length < cs.length := by
  unfold string? at h
  split at h
  · split at h
    · have hlt := length_lt_of_longString? h
      simp only [List.length_cons]
      omega
    · exact (length_lt_of_shortString? h).trans (Nat.lt_succ_self _)
  · exact (length_lt_of_shortString? h).trans (Nat.lt_succ_self _)
  · cases h

lemma length_lt_of_stringToken? {marks : StringMarks} (h : stringToken? marks cs = some (t, rest)) :
    rest.length < cs.length := by
  unfold stringToken? at h
  obtain ⟨⟨content, after⟩, hstring, h⟩ := Option.bind_eq_some_iff.mp h
  obtain ⟨slots, _, h⟩ := Option.bind_eq_some_iff.mp h
  cases h
  exact length_lt_of_string? hstring

/-! ## Tokens -/

lemma length_lt_of_operator? {o : String} (h : operator? cs = some (o, rest)) :
    rest.length < cs.length := by
  have hsome : ∀ o ∈ operators, o ≠ [] := by decide
  obtain ⟨o, ho, heq⟩ := Option.map_eq_some_iff.mp h
  cases heq
  have hmem := List.mem_of_find?_eq_some ho
  have hbegins : o.isPrefixOf cs = true := by simpa using List.find?_some ho
  have hprefix := (List.isPrefixOf_iff_prefix.mp hbegins).length_le
  have hpos := List.length_pos_iff.mpr (hsome o hmem)
  rw [List.length_drop]
  omega

/-- A token takes at least one character. -/
theorem length_lt_of_token? (h : token? cs = some (t, rest)) : rest.length < cs.length := by
  unfold token? at h
  split at h
  · cases h
  · rename_i c cs
    split at h
    · rename_i hbegins
      refine length_lt_of_number? ?_ h
      rcases Bool.or_eq_true_iff.mp hbegins with hdigit | hpoint
      · exact .inl hdigit
      · exact .inr (eq_of_beq (Bool.and_eq_true_iff.mp hpoint).1)
    · split at h
      · exact length_lt_of_stringToken? h
      · split at h
        · rename_i hword
          have hpos : 0 < ((c :: cs).takeWhile isWordChar).length := by
            rw [List.takeWhile_cons_of_pos hword]
            exact Nat.succ_pos _
          have hafter : ((c :: cs).drop ((c :: cs).takeWhile isWordChar).length).length
              < (c :: cs).length := by
            rw [List.length_drop]
            exact Nat.sub_lt (Nat.succ_pos _) hpos
          dsimp only at h
          split at h
          · exact (length_lt_of_stringToken? h).trans hafter
          · split at h
            · cases h
              exact hafter
            · cases h
        · obtain ⟨⟨o, r⟩, hoperator, heq⟩ := Option.map_eq_some_iff.mp h
          cases heq
          exact length_lt_of_operator? hoperator

/-! ## Steps -/

/-- A bound on the steps from a place to the end of the text. -/
def stepsFrom (r : Reading) (cs : List Char) : Nat :=
  2 * cs.length + if r.atStart = cs.isEmpty then 1 else 2

lemma stepsFrom_pos (r : Reading) (cs : List Char) : 0 < stepsFrom r cs := by
  unfold stepsFrom
  split <;> omega

/-- After a character is taken, wherever the reading stands then, there are fewer steps. -/
lemma stepsFrom_le_of_lt {fuel : Nat} {r' : Reading} (h : stepsFrom r cs ≤ fuel + 1)
    (hlt : rest.length < cs.length) : stepsFrom r' rest ≤ fuel := by
  unfold stepsFrom at h ⊢
  split at h <;> split <;> omega

lemma length_indentation_le (column : Column) (cs : List Char) :
    (indentation column cs).2.length ≤ cs.length := by
  fun_induction indentation column cs with
  | case1 _ cs ih | case2 _ cs ih | case3 _ cs ih => exact ih.trans (Nat.le_succ _)
  | case4 => exact le_rfl

/-- Inside a line there are fewer steps than at its start. -/
lemma stepsFrom_line {column : Column} {line : List Char} {fuel : Nat} {r' : Reading}
    (hstart : r.atStart = true) (hstart' : r'.atStart = false)
    (hline : indentation {} cs = (column, line)) (hsome : line ≠ [])
    (h : stepsFrom r cs ≤ fuel + 1) : stepsFrom r' line ≤ fuel := by
  have hle : line.length ≤ cs.length := by
    have hindentation := length_indentation_le {} cs
    rwa [hline] at hindentation
  have hpos := List.length_pos_iff.mpr hsome
  have hcs : cs.isEmpty = false := List.isEmpty_eq_false_iff.mpr (List.ne_nil_of_length_pos
    (hpos.trans_le hle))
  unfold stepsFrom at h ⊢
  rw [hstart, hcs] at h
  rw [hstart', List.isEmpty_eq_false_iff.mpr hsome]
  simp at h ⊢
  omega

/-- With as much fuel as there may be steps, more of it changes nothing. -/
theorem tokensFrom?_succ {fuel : Nat} (h : stepsFrom r cs ≤ fuel) :
    tokensFrom? (fuel + 1) r cs = tokensFrom? fuel r cs := by
  fun_induction tokensFrom? fuel r cs with
  | case1 r cs => exact absurd h (stepsFrom_pos r cs).not_ge
  | case2 fuel r cs hstart column hline =>
    conv_lhs => unfold tokensFrom?
    simp only [hstart, if_true, hline]
  | case3 fuel r cs hstart column rest hline ih =>
    have hle := length_indentation_le {} cs
    rw [hline] at hle
    conv_lhs => unfold tokensFrom?
    simp only [hstart, if_true, hline]
    exact ih (stepsFrom_le_of_lt h hle)
  | case4 fuel r cs hstart column rest hline ih =>
    have hle := length_indentation_le {} cs
    rw [hline] at hle
    have hskip := (List.dropWhile_suffix (· != '\n') (l := rest)).length_le
    conv_lhs => unfold tokensFrom?
    simp only [hstart, if_true, hline]
    exact ih (stepsFrom_le_of_lt h (hskip.trans_lt hle))
  | case5 fuel r cs hstart column line hline hsome hend hcomment ih =>
    have hmore := fun columns => ih columns (stepsFrom_line hstart rfl hline hsome h)
    conv_lhs => unfold tokensFrom?
    simp only [hstart, if_true, hline, hmore]
  | case6 fuel r hinside hclosed ih =>
    conv_lhs => unfold tokensFrom?
    rw [if_neg hinside]
    refine (if_pos hclosed).trans (congrArg (Option.map _) (ih ?_))
    have hinside : r.atStart = false := Bool.eq_false_iff.mpr hinside
    unfold stepsFrom at h ⊢
    simp [hinside] at h ⊢
    omega
  | case7 fuel r hinside hopen =>
    conv_lhs => unfold tokensFrom?
    rw [if_neg hinside]
    exact if_neg hopen
  | case8 fuel r hinside rest ih | case9 fuel r hinside rest ih | case10 fuel r hinside rest ih =>
    conv_lhs => unfold tokensFrom?
    rw [if_neg hinside]
    exact ih (stepsFrom_le_of_lt h (Nat.lt_succ_self _))
  | case11 fuel r hinside rest ih =>
    have hskip := (List.dropWhile_suffix (· != '\n') (l := rest)).length_le
    conv_lhs => unfold tokensFrom?
    rw [if_neg hinside]
    exact ih (stepsFrom_le_of_lt h (Nat.lt_succ_of_le hskip))
  | case12 fuel r hinside rest hend =>
    conv_lhs => unfold tokensFrom?
    rw [if_neg hinside]
    exact if_pos hend
  | case13 fuel r hinside rest hend ih =>
    conv_lhs => unfold tokensFrom?
    rw [if_neg hinside]
    exact (if_neg hend).trans (ih (stepsFrom_le_of_lt h (Nat.lt_succ_of_lt (Nat.lt_succ_self _))))
  | case14 fuel r hinside rest hclosed ih =>
    conv_lhs => unfold tokensFrom?
    rw [if_neg hinside]
    refine (if_pos hclosed).trans (congrArg (Option.map _) (ih ?_))
    exact stepsFrom_le_of_lt h (Nat.lt_succ_self _)
  | case15 fuel r hinside rest hopen ih =>
    conv_lhs => unfold tokensFrom?
    rw [if_neg hinside]
    exact (if_neg hopen).trans (ih (stepsFrom_le_of_lt h (Nat.lt_succ_self _)))
  | case16 fuel r cs hinside hend hspace htab hfeed hcomment hjoined hline ih =>
    conv_lhs => unfold tokensFrom?
    rw [if_neg hinside]
    cases htoken : token? cs with
    | none => split <;> simp_all
    | some p =>
      obtain ⟨t, rest⟩ := p
      have hmore := fun brackets =>
        ih rest brackets (stepsFrom_le_of_lt h (length_lt_of_token? htoken))
      split <;> simp_all

/-- Fuel beyond the bound does not count. -/
theorem tokensFrom?_add {fuel : Nat} (h : stepsFrom r cs ≤ fuel) (extra : Nat) :
    tokensFrom? (fuel + extra) r cs = tokensFrom? fuel r cs := by
  induction extra with
  | zero => rfl
  | succ extra ih => exact (tokensFrom?_succ (h.trans (Nat.le_add_right _ _))).trans ih

/-! ## Whole texts -/

/-- The tokens of a text that is read to its end. The blocks that are open there end with it. -/
theorem tokens?_of_reads {text : String} {ts : List Token} {columns : List Column}
    (h : Reads {} (unixLines text).toList ts { columns } []) :
    tokens? text = some (ts ++ columns.map fun _ => .dedent) := by
  obtain ⟨steps, h⟩ := h
  have henough : stepsFrom {} (unixLines text).toList ≤ 2 * (unixLines text).toList.length + 3 := by
    unfold stepsFrom
    split <;> omega
  unfold tokens?
  rw [← tokensFrom?_add henough steps, h]
  rfl

end ClientGen.Source
