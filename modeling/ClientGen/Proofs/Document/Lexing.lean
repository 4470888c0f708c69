import ClientGen.Proofs.Document.Literals

/-!
# Texts made of tokens

Which tokens a text is made of, told from its end: a character that is ignored adds nothing, and a
token adds itself in front of the tokens of the rest. A piece of text spells some tokens if it adds
them in front of whatever follows, as long as what follows does not continue the last of them.

* `Lexes` is what the lexical grammar makes of a text, and `ofChars?_of_lexes` ties it to the reader
  of tokens.
* `Spells` is the property of pieces, and the lemmas on it follow the ways in which pieces are put
  together.
-/

namespace ClientGen.Document.Token

open ClientGen.Number (digitsOf intText)
open ClientGen.Text (stringLiteral)

/-! ## Texts -/

/-- The tokens of a text. -/
def Lexes (cs : List Char) (ts : List Token) : Prop :=
  ∀ fuel, cs.length < fuel → readAll? fuel cs = some ts

theorem ofChars?_of_lexes {cs : List Char} {ts : List Token} (h : Lexes cs ts) :
    ofChars? cs = some ts :=
  h _ (Nat.lt_succ_self _)

/-- Begins a token: neither ignored nor the start of a comment. -/
def isTokenStart (c : Char) : Bool :=
  !isIgnored c && c != '#'

namespace Lexes

variable {cs rest : List Char} {ts : List Token}

lemma nil : Lexes [] [] := by
  intro fuel hfuel
  obtain ⟨fuel, rfl⟩ : ∃ n, fuel = n + 1 := ⟨fuel - 1, by omega⟩
  rfl

lemma blank {c : Char} (hc : isIgnored c = true) (h : Lexes cs ts) : Lexes (c :: cs) ts := by
  intro fuel hfuel
  obtain ⟨fuel, rfl⟩ : ∃ n, fuel = n + 1 := ⟨fuel - 1, by omega⟩
  have hrest := h (fuel + 1) (by simp at hfuel; omega)
  have hskip : skipIgnored false (c :: cs) = skipIgnored false cs := by
    simp [skipIgnored, hc]
  unfold readAll? at hrest ⊢
  rw [hskip]
  exact hrest

lemma token {c : Char} {t : Token} (hread : read? (c :: cs) = some (t, rest))
    (hstart : isTokenStart c = true) (hshort : rest.length ≤ cs.length) (h : Lexes rest ts) :
    Lexes (c :: cs) (t :: ts) := by
  intro fuel hfuel
  obtain ⟨fuel, rfl⟩ : ∃ n, fuel = n + 1 := ⟨fuel - 1, by omega⟩
  have hrest := h fuel (by simp at hfuel; omega)
  have hskip : skipIgnored false (c :: cs) = c :: cs := by
    unfold isTokenStart at hstart
    simp at hstart
    simp [skipIgnored, hstart]
  unfold readAll?
  rw [hskip]
  simp [hread, hrest]

/-! ## Single tokens -/

lemma mark {c : Char} (hc : isMark c = true) (h : Lexes cs ts) :
    Lexes (c :: cs) (.mark c :: ts) := by
  obtain ⟨-, -, hignored, hcomment, hpoint, hquote, hminus⟩ := of_isMark hc
  refine token ?_ (by simp [isTokenStart, hignored, hcomment]) (Nat.le_refl _) h
  rw [read?.eq_5 _ _ (fun _ h => absurd h hpoint) (fun _ h => absurd h hquote) hquote hminus,
    if_pos hc]

lemma spread (h : Lexes cs ts) : Lexes ('.' :: '.' :: '.' :: cs) (.spread :: ts) :=
  token (read?.eq_1 cs) (by decide) (by simp only [List.length_cons]; omega) h

end Lexes

/-- A character of a class is none of some that are not in the class. -/
lemma ne_of_all_not {p : Char → Bool} {others : List Char} (hothers : others.all (!p ·) = true)
    {c : Char} (hc : p c = true) : ∀ m ∈ others, c ≠ m := by
  rintro m hm rfl
  have hnot := List.all_eq_true.mp hothers c hm
  rw [hc] at hnot
  cases hnot

lemma isTokenStart_of_isDigit {c : Char} (hc : c.isDigit = true) : isTokenStart c = true := by
  have hne : ∀ m ∈ [' ', '\t', ',', '\uFEFF', '\n', '\r', '#'], c ≠ m :=
    ne_of_all_not (by decide) hc
  simp only [List.forall_mem_cons] at hne
  simp [isTokenStart, isIgnored, isLineEnd, hne]

/-! ## Names -/

/-- A name of the grammar. -/
def isName (s : String) : Bool :=
  match s.toList with
  | [] => false
  | c :: cs => isNameStart c && cs.all isNamePart

lemma isName_cases {s : String} (h : isName s = true) :
    ∃ c cs, s.toList = c :: cs ∧ isNameStart c = true ∧ ∀ d ∈ cs, isNamePart d = true := by
  unfold isName at h
  cases hs : s.toList with
  | nil => rw [hs] at h; cases h
  | cons c cs =>
    rw [hs] at h
    obtain ⟨hc, hcs⟩ := Bool.and_eq_true_iff.mp h
    exact ⟨c, cs, rfl, hc, List.all_eq_true.mp hcs⟩

/-- What begins a name is none of the other things that a token begins with. -/
lemma of_isNameStart {c : Char} (hc : isNameStart c = true) :
    isTokenStart c = true ∧ isMark c = false ∧ c ≠ '.' ∧ c ≠ '"' ∧ c ≠ '-' := by
  have hne : ∀ m ∈ [' ', '\t', ',', '\uFEFF', '\n', '\r', '#', '.', '"', '-', '!', '$', '&', '(',
      ')', ':', '=', '@', '[', ']', '\x7b', '|', '\x7d'], c ≠ m :=
    ne_of_all_not (by decide) hc
  simp only [List.forall_mem_cons] at hne
  simp [isTokenStart, isIgnored, isLineEnd, isMark, hne]

lemma Lexes.name {s : String} (hs : isName s = true) {rest : List Char} {ts : List Token}
    (hrest : Delimited rest) (h : Lexes rest ts) : Lexes (s.toList ++ rest) (.name s :: ts) := by
  obtain ⟨c, cs, hcs, hc, hparts⟩ := isName_cases hs
  obtain ⟨hstart, hmark, hpoint, hquote, hminus⟩ := of_isNameStart hc
  have hends : rest.takeWhile isNamePart = [] ∧ rest.dropWhile isNamePart = rest := by
    cases rest with
    | nil => exact ⟨rfl, rfl⟩
    | cons d ds => simp [hrest.1]
  rw [hcs, List.cons_append]
  refine token ?_ hstart ?_ h
  · rw [read?.eq_5 _ _ (fun _ h => absurd h hpoint) (fun _ h => absurd h hquote) hquote hminus,
      if_neg (by simp [hmark]), if_pos hc, List.takeWhile_append_of_pos hparts,
      List.dropWhile_append_of_pos hparts, hends.1, hends.2, List.append_nil, ← hcs,
      String.ofList_toList]
  · simp

/-! ## Pieces of text -/

/-- The piece adds the tokens in front of whatever follows it. -/
def Spells (s : String) (ts : List Token) : Prop :=
  ∀ rest us, Delimited rest → Lexes rest us → Lexes (s.toList ++ rest) (ts ++ us)

/-- The piece may stand directly behind any token. -/
def Trails (s : String) : Prop :=
  ∀ rest, Delimited rest → Delimited (s.toList ++ rest)

lemma delimited_of_isIgnored {c : Char} (hc : isIgnored c = true) (cs : List Char) :
    Delimited (c :: cs) := by
  have hall : [' ', '\t', ',', '\uFEFF', '\n', '\r'].all
      (fun m => !isNamePart m && m != '.' && m != '"') = true := by decide
  have hmem : c ∈ [' ', '\t', ',', '\uFEFF', '\n', '\r'] := by
    simpa [isIgnored, isLineEnd, or_assoc] using hc
  show isNamePart c = false ∧ c ≠ '.' ∧ c ≠ '"'
  simpa [and_assoc] using List.all_eq_true.mp hall c hmem

lemma delimited_of_isMark {c : Char} (hc : isMark c = true) (cs : List Char) :
    Delimited (c :: cs) := by
  obtain ⟨hpart, -, -, -, hpoint, hquote, -⟩ := of_isMark hc
  exact ⟨hpart, hpoint, hquote⟩

lemma Lexes.blanks {bs cs : List Char} {ts : List Token} (hbs : bs.all isIgnored = true)
    (h : Lexes cs ts) : Lexes (bs ++ cs) ts := by
  induction bs with
  | nil => exact h
  | cons b bs ih =>
    rw [List.all_cons, Bool.and_eq_true] at hbs
    exact .blank hbs.1 (ih hbs.2)

namespace Spells

variable {s t : String} {ts us : List Token}

lemma empty : Spells "" [] :=
  fun _ _ _ h => h

lemma name (hs : isName s = true) : Spells s [.name s] :=
  fun _ _ hrest h => Lexes.name hs hrest h

lemma spread : Spells "..." [.spread] :=
  fun _ _ _ h => .spread h

lemma int (n : Int) : Spells (intText n) [.int n] := by
  intro rest us hrest h
  have hread := read?_intText n hrest
  obtain ⟨c, cs, hcs, hc⟩ := intText_cases n
  rw [hcs, List.cons_append] at hread ⊢
  refine .token hread ?_ (by simp) h
  rcases hc with rfl | hc
  · decide
  · exact isTokenStart_of_isDigit hc

lemma string (s : String) : Spells (stringLiteral s) [.string s] := by
  intro rest us hrest h
  have hread := read?_stringLiteral s hrest
  obtain ⟨cs, hcs⟩ : ∃ cs, (stringLiteral s).toList = '"' :: cs := by
    unfold stringLiteral
    simp
  rw [hcs, List.cons_append] at hread ⊢
  exact .token hread (by decide) (by simp) h

/-- Two pieces one after the other, where the second one does not continue the first. -/
lemma append (hs : Spells s ts) (ht : Spells t us) (hdelimited : Trails t) :
    Spells (s ++ t) (ts ++ us) := by
  intro rest vs hrest h
  rw [String.toList_append, List.append_assoc, List.append_assoc]
  exact hs _ _ (hdelimited rest hrest) (ht rest vs hrest h)

/-- Two pieces with something between them that is ignored. -/
lemma separated {separator : String} (hne : separator.toList ≠ [])
    (hseparator : separator.toList.all isIgnored = true) (hs : Spells s ts)
    (ht : Spells t us) : Spells (s ++ separator ++ t) (ts ++ us) := by
  intro rest vs hrest h
  rw [String.toList_append, String.toList_append, List.append_assoc, List.append_assoc,
    List.append_assoc]
  have htext := Lexes.blanks hseparator (ht rest vs hrest h)
  apply hs _ _ ?_ htext
  cases hcs : separator.toList with
  | nil => exact absurd hcs hne
  | cons c cs =>
    rw [hcs, List.all_cons, Bool.and_eq_true] at hseparator
    exact delimited_of_isIgnored hseparator.1 _

/-- Pieces in a row, with separators between them. -/
lemma intercalate {separator : String} (hne : separator.toList ≠ [])
    (hseparator : separator.toList.all isIgnored = true) {ss : List String}
    {tss : List (List Token)} (h : List.Forall₂ Spells ss tss) :
    Spells (separator.intercalate ss) tss.flatten := by
  induction h with
  | nil =>
    rw [String.intercalate_nil]
    exact empty
  | @cons s ts ss tss hs hss ih =>
    cases hss with
    | nil =>
      rw [String.intercalate_singleton]
      simpa using hs
    | cons ht hmore =>
      rw [String.intercalate_cons_cons, List.flatten_cons]
      exact separated hne hseparator hs ih

/-- A piece between two marks, which may have something beside them that is ignored. -/
lemma enclosed {opening closing : String} {a b : Char} {as bs : List Char}
    (hopening : opening.toList = a :: as) (hclosing : closing.toList = bs ++ [b])
    (ha : isMark a = true) (hb : isMark b = true) (has : as.all isIgnored = true)
    (hbs : bs.all isIgnored = true) (hs : Spells s ts) :
    Spells (opening ++ s ++ closing) (.mark a :: ts ++ [.mark b]) := by
  intro rest us hrest h
  have hend : Lexes (bs ++ b :: rest) (.mark b :: us) := .blanks hbs (.mark hb h)
  have hdelimited : Delimited (bs ++ b :: rest) := by
    cases bs with
    | nil => exact delimited_of_isMark hb rest
    | cons c cs =>
      rw [List.all_cons, Bool.and_eq_true] at hbs
      exact delimited_of_isIgnored hbs.1 _
  rw [String.toList_append, String.toList_append, hopening, hclosing]
  have htext := Lexes.mark ha (Lexes.blanks has (hs _ _ hdelimited hend))
  simpa using htext

/-- A piece with its name and a colon in front. -/
lemma keyed {key : String} (hkey : isName key = true) (hs : Spells s ts) :
    Spells (key ++ ": " ++ s) (.name key :: .mark ':' :: ts) := by
  intro rest us hrest h
  have hvalue : Lexes (' ' :: (s.toList ++ rest)) (ts ++ us) := .blank rfl (hs rest us hrest h)
  have hcolon : Lexes (':' :: ' ' :: (s.toList ++ rest)) (.mark ':' :: (ts ++ us)) :=
    .mark (by decide) hvalue
  have htext := Lexes.name hkey (delimited_of_isMark (by decide) _) hcolon
  simpa using htext

end Spells

end ClientGen.Document.Token
