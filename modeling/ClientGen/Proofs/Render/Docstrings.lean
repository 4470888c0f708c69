import ClientGen.Proofs.Text.Parts
import ClientGen.Render.Descriptions
import ClientGen.Source.StringText
import Mathlib.Tactic.Common

/-!
# The content of a docstring

Between triple quotes stands an escaped text: its backslashes are escaped, and of a run of quotes
every three. What is left of a run is too short to close the string, as long as it does not touch
the quotes that do, and these only a last character can touch.

* `longString?_docstringChars`: the string that a docstring is ends with the docstring.
* `unescaped?_docstringChars`: it denotes the description.
-/

namespace ClientGen.Render

open Source (longString? escapesOk)
open Text (getLast?_ne_of_append)

/-- What the content of a string denotes if its escapes are those of backslashes and of double
quotes. -/
def unescaped? : List Char → Option (List Char)
  | [] => some []
  | '\\' :: '\\' :: cs => (unescaped? cs).map ('\\' :: ·)
  | '\\' :: '"' :: cs => (unescaped? cs).map ('"' :: ·)
  | '\\' :: _ => none
  | c :: cs => (unescaped? cs).map (c :: ·)

/-- What a docstring says: the description, with a space after a quote at its end. -/
def docstringContent (cs : List Char) : List Char :=
  cs ++ if cs.getLast? = some '"' then [' '] else []

/-! ## Escaped texts -/

/-- An escaped text ends as the text does. -/
lemma getLast?_escapeDocstring (cs : List Char) :
    (escapeDocstring cs).getLast? = cs.getLast? := by
  fun_induction escapeDocstring cs with
  | case1 => rfl
  | case2 cs ih => simp [List.getLast?_cons, ih]
  | case3 cs ih => simp [List.getLast?_cons, ih]
  | case4 c cs _ _ ih => simp [List.getLast?_cons, ih]

/-- An escaped text is empty only if the text is. -/
lemma eq_nil_of_escapeDocstring {cs : List Char} (h : escapeDocstring cs = []) : cs = [] := by
  rw [← List.getLast?_eq_none_iff, ← getLast?_escapeDocstring, h]
  rfl

/-- An escaped text begins as the text does, unless it begins with a backslash. -/
lemma exists_of_escapeDocstring {c : Char} {cs es : List Char} (hc : c ≠ '\\')
    (h : escapeDocstring cs = c :: es) : ∃ more, cs = c :: more ∧ es = escapeDocstring more := by
  fun_cases escapeDocstring cs with
  | case1 => cases h
  | case2 => exact absurd (List.cons.inj h).1.symm hc
  | case3 => exact absurd (List.cons.inj h).1.symm hc
  | case4 d more hquotes hslash =>
    rw [escapeDocstring.eq_4 d more hquotes hslash, List.cons.injEq] at h
    exact ⟨more, by rw [h.1], h.2.symm⟩

/-- What does not go on with two quotes does not when it is escaped either, unless the text
ends before that and what follows it begins with a quote. -/
lemma escapeDocstring_append_ne {cs tail : List Char} (hcs : ∀ more, cs ≠ '"' :: '"' :: more)
    (hend : ('"' :: cs).getLast? ≠ some '"' ∨ tail.head? ≠ some '"') (more : List Char) :
    escapeDocstring cs ++ tail ≠ '"' :: '"' :: more := by
  intro h
  obtain ⟨hnil, htail⟩ | ⟨es, hes, hmore⟩ := List.append_eq_cons_iff.mp h
  · obtain rfl := eq_nil_of_escapeDocstring hnil
    simp [htail] at hend
  · obtain ⟨cs, rfl, rfl⟩ := exists_of_escapeDocstring (by decide) hes
    obtain ⟨hnil, htail⟩ | ⟨es, hes, -⟩ := List.append_eq_cons_iff.mp hmore.symm
    · obtain rfl := eq_nil_of_escapeDocstring hnil
      simp [htail] at hend
    · obtain ⟨cs, rfl, -⟩ := exists_of_escapeDocstring (by decide) hes
      exact hcs cs rfl

/-- A space at the end stays. -/
lemma escapeDocstring_concat_space (cs : List Char) :
    escapeDocstring (cs ++ [' ']) = escapeDocstring cs ++ [' '] := by
  fun_induction escapeDocstring cs with
  | case1 => rfl
  | case2 cs ih => simp [escapeDocstring, ih]
  | case3 cs ih => simp [escapeDocstring, ih]
  | case4 c cs hquotes hslash ih =>
    rw [List.cons_append, List.cons_append, ← ih]
    refine escapeDocstring.eq_4 c (cs ++ [' ']) ?_ hslash
    -- three quotes that end before a space are in the text
    rintro more rfl hmore
    match cs with
    | [] => simp at hmore
    | [a] => simp at hmore
    | a :: b :: cs => exact hquotes cs rfl (by simp_all)

/-! ## Between the quotes -/

/-- An escape does not end a string. -/
lemma longString?_escape (c : Char) (cs : List Char) :
    longString? '"' ('\\' :: c :: cs)
      = (longString? '"' cs).map fun (s, r) => ('\\' :: c :: s, r) := by
  rw [Source.longString?.eq_2]

/-- A character that begins no escape and does not begin three quotes does not end a string. -/
lemma longString?_cons {c : Char} {cs : List Char} (hslash : c ≠ '\\')
    (hquotes : ∀ more, c = '"' → cs ≠ '"' :: '"' :: more) :
    longString? '"' (c :: cs) = (longString? '"' cs).map fun (s, r) => (c :: s, r) := by
  rw [Source.longString?.eq_3 _ _ _ (fun _ _ h => absurd h hslash), if_neg ?_]
  simp only [Bool.and_eq_true, beq_iff_eq, not_and]
  intro hc htwo
  match cs, htwo with
  | a :: b :: more, htwo =>
    simp at htwo
    exact hquotes more hc (by simp [htwo])

/-- An escaped text does not end a string, unless a quote at its end touches what follows. -/
theorem longString?_escapeDocstring {cs tail : List Char}
    (hend : cs.getLast? ≠ some '"' ∨ tail.head? ≠ some '"') :
    longString? '"' (escapeDocstring cs ++ tail)
      = (longString? '"' tail).map fun (s, r) => (escapeDocstring cs ++ s, r) := by
  fun_induction escapeDocstring cs with
  | case1 => simp
  | case2 cs ih =>
    have hrest := ih (hend.imp_left (getLast?_ne_of_append ['"', '"', '"']))
    simp only [List.cons_append, longString?_escape, hrest, Option.map_map]
    rfl
  | case3 cs ih =>
    have hrest := ih (hend.imp_left (getLast?_ne_of_append ['\\']))
    simp only [List.cons_append, longString?_escape, hrest, Option.map_map]
    rfl
  | case4 c cs hquotes hslash ih =>
    have hrest := ih (hend.imp_left (getLast?_ne_of_append [c]))
    have hplain : ∀ more, c = '"' → escapeDocstring cs ++ tail ≠ '"' :: '"' :: more := by
      rintro more rfl
      exact escapeDocstring_append_ne (fun _ => hquotes _ rfl) hend more
    rw [List.cons_append, longString?_cons hslash hplain, hrest, Option.map_map]
    rfl

/-- An escaped text ends at the quotes that close it, if it does not end with a quote. -/
lemma longString?_closed {cs : List Char} (hend : cs.getLast? ≠ some '"') (rest : List Char) :
    longString? '"' (escapeDocstring cs ++ '"' :: '"' :: '"' :: rest)
      = some (escapeDocstring cs, rest) := by
  have hclosing : longString? '"' ('"' :: '"' :: '"' :: rest) = some ([], rest) := rfl
  rw [longString?_escapeDocstring (.inl hend), hclosing]
  simp

/-! ## Docstrings -/

lemma docstringChars_eq (cs : List Char) :
    docstringChars cs = escapeDocstring (docstringContent cs) := by
  unfold docstringChars docstringContent
  simp only [getLast?_escapeDocstring]
  split
  · exact (escapeDocstring_concat_space cs).symm
  · rw [List.append_nil]

lemma getLast?_docstringContent (cs : List Char) :
    (docstringContent cs).getLast? ≠ some '"' := by
  unfold docstringContent
  split
  · simp
  · simpa

/-- A docstring ends at the quotes that close it, and no sooner. -/
theorem longString?_docstringChars (cs rest : List Char) :
    longString? '"' (docstringChars cs ++ '"' :: '"' :: '"' :: rest)
      = some (docstringChars cs, rest) := by
  rw [docstringChars_eq]
  exact longString?_closed (getLast?_docstringContent cs) rest

/-- A character that is no backslash denotes itself. -/
lemma unescaped?_cons {c : Char} (hslash : c ≠ '\\') (cs : List Char) :
    unescaped? (c :: cs) = (unescaped? cs).map (c :: ·) :=
  unescaped?.eq_5 c cs (fun _ h => absurd h hslash) (fun _ h => absurd h hslash) hslash

/-- What has been escaped is the text. -/
lemma unescaped?_escapeDocstring (cs : List Char) : unescaped? (escapeDocstring cs) = some cs := by
  fun_induction escapeDocstring cs with
  | case1 => rfl
  | case2 cs ih => simp [unescaped?, ih]
  | case3 cs ih => simp [unescaped?, ih]
  | case4 c cs hquotes hslash ih =>
    rw [unescaped?_cons hslash, ih]
    rfl

/-- A docstring denotes the description, and a space after a quote at its end. -/
theorem unescaped?_docstringChars (cs : List Char) :
    unescaped? (docstringChars cs) = some (docstringContent cs) := by
  rw [docstringChars_eq, unescaped?_escapeDocstring]

/-- A string has no escapes that are not whole if all of them can be undone. -/
lemma escapesOk_of_unescaped? {cs content : List Char} (isBytes : Bool)
    (h : unescaped? cs = some content) : escapesOk isBytes cs = true := by
  fun_induction unescaped? cs generalizing content with
  | case1 => rfl
  | case2 cs ih =>
    obtain ⟨more, hmore, -⟩ := Option.map_eq_some_iff.mp h
    simp [escapesOk, Source.escapeOk, ih hmore]
  | case3 cs ih =>
    obtain ⟨more, hmore, -⟩ := Option.map_eq_some_iff.mp h
    simp [escapesOk, Source.escapeOk, ih hmore]
  | case4 => cases h
  | case5 c cs _ _ hslash ih =>
    obtain ⟨more, hmore, -⟩ := Option.map_eq_some_iff.mp h
    rw [Source.escapesOk.eq_3 isBytes c cs (fun _ _ h => absurd h hslash)]
    exact ih hmore

end ClientGen.Render
