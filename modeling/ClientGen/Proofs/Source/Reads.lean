import ClientGen.Proofs.Naming.Identifiers
import ClientGen.Proofs.Source.Lines

/-!
# Reading from place to place

From a place in a text some tokens are read, and the reading goes on at another place, whatever
comes there. Such steps are put one after the other: the tokens of a line are read one at a time,
and then those of the line that follows.

* `Reads` is the relation, and `Reads.trans` puts two readings together.
* `Reads.start`, `Reads.name`, `Reads.literal`, `Reads.token` and `Reads.lineEnd` are the steps
  along a line.
-/

namespace ClientGen.Source

open ClientGen.Document.Token (isName isNameStart isNamePart isName_cases)
open ClientGen.Naming (forall_isNamePart isNamePart_of_mem_name isIdentifier_of_isName)

variable {columns : List Column} {brackets : List String} {cs rest ending : List Char}
  {r r' r'' : Reading} {ts ts' : List Token} {word : String}

/-! ## Names and literals -/

/-- A word ends before a text: the text neither goes on with it nor is a string that it marks. -/
def endsWord (cs : List Char) : Bool :=
  cs.head?.all fun c => !isWordChar c && c != '"' && c != '\''

/-- How a name of the grammar begins: with no digit, no point and no quote. -/
lemma of_isNameStart_token {c : Char} (h : isNameStart c = true) :
    (c.isDigit = false ∧ c ≠ '.') ∧ (c ≠ '"' ∧ c ≠ '\'') ∧ isWordChar c = true := by
  have hall := forall_isNamePart (p := fun c => !isNameStart c
    || (!c.isDigit && c != '.') && (c != '"' && c != '\'') && isWordChar c) (by decide +kernel)
    (show isNamePart c = true from Bool.or_eq_true_iff.mpr (.inl h))
  simpa [h, and_assoc] using hall

/-- A name is a token as far as it goes. -/
theorem token?_name (h : isName word = true) (hrest : endsWord rest = true) :
    token? (word.toList ++ rest) = some (.name word, rest) := by
  obtain ⟨c, cs, hchars, hstart, -⟩ := isName_cases h
  obtain ⟨⟨hdigit, hpoint⟩, ⟨hdouble, hsingle⟩, hword⟩ := of_isNameStart_token hstart
  have hwords : ∀ d ∈ c :: cs, isWordChar d = true := fun d hd =>
    forall_isNamePart (by decide +kernel) (isNamePart_of_mem_name h d (hchars ▸ hd))
  have htake : (c :: (cs ++ rest)).takeWhile isWordChar = c :: cs := by
    rw [← List.cons_append, List.takeWhile_append_of_pos hwords]
    cases rest with
    | nil => simp
    | cons d more => simp_all [endsWord]
  have hplain : rest.head? ≠ some '"' ∧ rest.head? ≠ some '\'' := by
    cases rest with
    | nil => simp
    | cons d more => simp_all [endsWord]
  have hidentifier : Text.isIdentifierChars (c :: cs) = true := hchars ▸ isIdentifier_of_isName h
  have htext : String.ofList (c :: cs) = word := by rw [← hchars, String.ofList_toList]
  rw [hchars, List.cons_append]
  simp [token?, htake, hdigit, hpoint, hdouble, hsingle, hword, hplain, hidentifier, htext]

/-- Between single quotes the character is written as it is. -/
def isLiteralChar (c : Char) : Bool :=
  c != '\'' && c != '\\' && c != '\n'

/-- A string ends at the first quote that is its own. -/
lemma shortString?_literal {content : List Char} (h : ∀ c ∈ content, isLiteralChar c = true)
    (rest : List Char) : shortString? '\'' (content ++ '\'' :: rest) = some (content, rest) := by
  induction content with
  | nil => simp [shortString?]
  | cons c content ih =>
    obtain ⟨hc, hcontent⟩ := List.forall_mem_cons.mp h
    have hplain : (c ≠ '\'' ∧ c ≠ '\\') ∧ c ≠ '\n' := by simpa [isLiteralChar] using hc
    rw [List.cons_append, shortString?.eq_3 _ _ _ (fun _ _ hslash => absurd hslash hplain.1.2),
      ih hcontent]
    simp [hplain]

/-- A literal is a string with its content, unless the content is empty. -/
lemma string?_literal {content : List Char} (h : ∀ c ∈ content, isLiteralChar c = true)
    (hsome : content ≠ []) (rest : List Char) :
    string? ('\'' :: (content ++ '\'' :: rest)) = some (content, rest) := by
  have hshort := shortString?_literal h rest
  obtain ⟨c, content, rfl⟩ := List.exists_cons_of_ne_nil hsome
  have hfirst : c ≠ '\'' := by
    rintro rfl
    exact absurd (h _ List.mem_cons_self) (by decide)
  obtain ⟨d, more, hmore⟩ : ∃ d more, content ++ '\'' :: rest = d :: more :=
    List.exists_cons_of_ne_nil (by simp)
  rw [List.cons_append, hmore] at hshort ⊢
  simp [string?, hfirst, hshort]

lemma isLiteralChar_of_isName (h : isName word = true) :
    ∀ c ∈ word.toList, isLiteralChar c = true := fun c hc =>
  forall_isNamePart (by decide +kernel) (isNamePart_of_mem_name h c hc)

lemma escapesOk_literal {content : List Char} (h : ∀ c ∈ content, isLiteralChar c = true)
    (isBytes : Bool) : escapesOk isBytes content = true := by
  induction content with
  | nil => rfl
  | cons c content ih =>
    obtain ⟨hc, hcontent⟩ := List.forall_mem_cons.mp h
    have hslash : c ≠ '\\' := by
      rintro rfl
      exact absurd hc (by decide)
    rw [escapesOk.eq_3 isBytes c content (fun _ _ h => absurd h hslash)]
    exact ih hcontent

/-- A literal is one token. -/
lemma token?_literal {content : List Char} (h : ∀ c ∈ content, isLiteralChar c = true)
    (hsome : content ≠ []) (rest : List Char) :
    token? ('\'' :: (content ++ '\'' :: rest)) = some (.string false [], rest) := by
  show stringToken? ⟨false, false, false⟩ _ = _
  simp [stringToken?, string?_literal h hsome, contentSlots?, escapesOk_literal h]

lemma beginsToken_name (hword : isName word = true) (rest : List Char) :
    (word.toList ++ rest).head?.any beginsToken = true := by
  obtain ⟨c, cs, hchars, hstart, -⟩ := isName_cases hword
  rw [hchars]
  exact forall_isNamePart (p := beginsToken) (by decide +kernel)
    (Bool.or_eq_true_iff.mpr (.inl hstart))

/-! ## Steps -/

/-- From a place on some tokens are read, up to another place. -/
def Reads (r : Reading) (cs : List Char) (ts : List Token) (r' : Reading) (rest : List Char) :
    Prop :=
  ∃ steps, ∀ fuel, tokensFrom? (fuel + steps) r cs = (tokensFrom? fuel r' rest).map (ts ++ ·)

namespace Reads

lemma refl (r : Reading) (cs : List Char) : Reads r cs [] r cs :=
  ⟨0, fun fuel => by simp⟩

theorem trans (h : Reads r cs ts r' rest) (h' : Reads r' rest ts' r'' ending) :
    Reads r cs (ts ++ ts') r'' ending := by
  obtain ⟨steps, h⟩ := h
  obtain ⟨steps', h'⟩ := h'
  refine ⟨steps' + steps, fun fuel => ?_⟩
  rw [← Nat.add_assoc, h, h', Option.map_map]
  simp [Function.comp_def]

/-- A line begins with a step in or out. -/
lemma start {n : ℕ} {columns' : List Column} (hcs : cs.head?.any beginsToken = true)
    (hsteps : reindent? ⟨n, n⟩ columns = some (ts, columns'))
    (h : Reads { columns := columns', atStart := false } cs ts' r' ending) :
    Reads { columns := columns } (List.replicate n ' ' ++ cs) (ts ++ ts') r' ending := by
  cases cs with
  | nil => cases hcs
  | cons c cs =>
    obtain ⟨steps, h⟩ := h
    refine ⟨steps + 1, fun fuel => ?_⟩
    rw [← Nat.add_assoc, tokensFrom?_start _ _ hcs, hsteps, Option.bind_some]
    simp only [h, Option.map_map, Function.comp_def, List.append_assoc]

/-- An empty line is not read. -/
lemma emptyLine (h : Reads { columns := columns } cs ts r' ending) :
    Reads { columns := columns } ('\n' :: cs) ts r' ending := by
  obtain ⟨steps, h⟩ := h
  exact ⟨steps + 1, fun fuel => h fuel⟩

lemma lineEnd (h : Reads { columns := columns } cs ts r' ending) :
    Reads { columns := columns, atStart := false } ('\n' :: cs) (.newline :: ts) r' ending := by
  obtain ⟨steps, h⟩ := h
  refine ⟨steps + 1, fun fuel => ?_⟩
  rw [← Nat.add_assoc, tokensFrom?_lineEnd, h, Option.map_map]
  rfl

/-- Between brackets the end of a line is not read. -/
lemma innerLine {bracket : String}
    (h : Reads { brackets := bracket :: brackets, columns, atStart := false } cs ts r' ending) :
    Reads { brackets := bracket :: brackets, columns, atStart := false } ('\n' :: cs) ts r'
      ending := by
  obtain ⟨steps, h⟩ := h
  exact ⟨steps + 1, fun fuel => h fuel⟩

lemma blank (h : Reads { brackets, columns, atStart := false } cs ts r' ending) :
    Reads { brackets, columns, atStart := false } (' ' :: cs) ts r' ending := by
  obtain ⟨steps, h⟩ := h
  exact ⟨steps + 1, fun fuel => h fuel⟩

lemma token {t : Token} {due : List String} (hcs : cs.head?.any beginsToken = true)
    (ht : token? cs = some (t, rest)) (hdue : t.due? brackets = some due)
    (h : Reads { brackets := due, columns, atStart := false } rest ts r' ending) :
    Reads { brackets, columns, atStart := false } cs (t :: ts) r' ending := by
  cases cs with
  | nil => cases hcs
  | cons c cs =>
    obtain ⟨steps, h⟩ := h
    refine ⟨steps + 1, fun fuel => ?_⟩
    rw [← Nat.add_assoc, tokensFrom?_token _ _ hcs ht hdue, h, Option.map_map]
    rfl

lemma name (hword : isName word = true) (hrest : endsWord rest = true)
    (h : Reads { brackets, columns, atStart := false } rest ts r' ending) :
    Reads { brackets, columns, atStart := false } (word.toList ++ rest) (.name word :: ts) r'
      ending :=
  token (beginsToken_name hword rest) (token?_name hword hrest) rfl h

/-- A name between single quotes. -/
lemma literal (hword : isName word = true)
    (h : Reads { brackets, columns, atStart := false } rest ts r' ending) :
    Reads { brackets, columns, atStart := false } ('\'' :: (word.toList ++ '\'' :: rest))
      (.string false [] :: ts) r' ending := by
  have hsome : word.toList ≠ [] := by
    obtain ⟨c, cs, hcons, -⟩ := isName_cases hword
    simp [hcons]
  exact token rfl (token?_literal (isLiteralChar_of_isName hword) hsome rest) rfl h

end Reads

end ClientGen.Source
