import ClientGen.Proofs.Document.Lexing
import ClientGen.Proofs.Document.Reading

/-!
# What texts mean

A text means something as a phrase of a kind if the tokens that it spells are read as that, and
nothing is taken of what stands behind them. Phrases are made of smaller phrases, and so are their
meanings: there is one lemma for each way in which values, selections and operations are written.

* `Phrase.Means` is the meaning of a text.
* `Phrase.exists_row` is about phrases in a row, and the only place where rows are taken apart.
* `readValue?_of_means` and `read?_operation` are what is read of whole texts.
-/

namespace ClientGen.Document

open Token (Spells Trails isName isIgnored delimited_of_isIgnored delimited_of_isMark)

/-- A kind of phrase: its reader, with the fuel that it needs, what it begins with, and what may
stand behind it. -/
structure Phrase (α : Type) where
  reader : Nat → Reader α
  begins : Token → Prop
  before : Option Token → Prop := fun _ => True

namespace Phrase

open Reader (Row)

variable {α : Type}

/-- The text spells tokens that are read as the given meaning. -/
def Means (p : Phrase α) (s : String) (a : α) : Prop :=
  ∃ t ts, Spells s (t :: ts) ∧ p.begins t ∧
    ∀ fuel rest, ts.length < fuel → p.before rest.head? →
      p.reader fuel (t :: ts ++ rest) = some (a, rest)

/-- Phrases with separators between them are a row, if none of them begins with the closing token
and each may stand in front of another one. -/
theorem exists_row {p : Phrase α} (close : Token) (separator : String)
    (hne : separator.toList ≠ []) (hseparator : separator.toList.all isIgnored = true)
    (hbegins : ∀ t, p.begins t → t ≠ close ∧ p.before (some t)) (hclose : p.before (some close))
    {ss : List String} {as : List α} (h : List.Forall₂ p.Means ss as) :
    ∃ ts, Spells (separator.intercalate ss) ts ∧ ∀ fuel rest, ts.length ≤ fuel →
      Row (p.reader fuel) close rest (ts ++ close :: rest) as := by
  have htokens : ∃ tss, List.Forall₂ Spells ss tss ∧
      (∀ rest, p.before (tss.flatten ++ close :: rest).head?) ∧
      ∀ fuel rest, tss.flatten.length ≤ fuel →
        Row (p.reader fuel) close rest (tss.flatten ++ close :: rest) as := by
    induction h with
    | nil => exact ⟨[], .nil, fun _ => hclose, fun _ _ _ => .close⟩
    | cons hfirst hmore ih =>
      obtain ⟨tss, htss, hbefore, hrow⟩ := ih
      obtain ⟨t, ts, hspells, ht, hread⟩ := hfirst
      obtain ⟨hnot, hnext⟩ := hbegins t ht
      refine ⟨(t :: ts) :: tss, .cons hspells htss, fun rest => hnext, fun fuel rest hfuel => ?_⟩
      simp only [List.flatten_cons, List.length_append, List.length_cons] at hfuel
      rw [List.flatten_cons, List.append_assoc]
      refine .cons ?_ (hread fuel _ (by omega) (hbefore rest)) ?_ (hrow fuel rest (by omega))
      · exact fun heq => hnot (Option.some.inj heq)
      · simp only [List.cons_append, List.length_cons, List.length_append]
        omega
  obtain ⟨tss, htss, -, hrow⟩ := htokens
  exact ⟨tss.flatten, .intercalate hne hseparator htss, hrow⟩

/-! ## Values -/

/-- Values. In a row of values none begins with the bracket that ends the row. -/
def value (constant : Bool) : Phrase Value where
  reader := Reader.valueWithin constant
  begins t := t ≠ .mark ']'

/-- Entries of an object. -/
def entry (constant : Bool) : Phrase (String × Value) where
  reader fuel := Reader.entryWith (Reader.valueWithin constant fuel)
  begins t := ∃ key, t = .name key

/-- Arguments. -/
def argument (constant : Bool) : Phrase Argument where
  reader _ := Reader.argument constant
  begins t := ∃ key, t = .name key

lemma ne_mark_of_name {t : Token} {c : Char} (h : ∃ key, t = .name key) : t ≠ .mark c := by
  obtain ⟨key, rfl⟩ := h
  nofun

section

variable {constant : Bool} {s : String} {v : Value}

lemma value_name (hs : isName s = true) : (value constant).Means s (Reader.valueOfName s) := by
  refine ⟨.name s, [], .name hs, nofun, fun fuel rest hfuel _ => ?_⟩
  obtain ⟨fuel, rfl⟩ : ∃ n, fuel = n + 1 := ⟨fuel - 1, by omega⟩
  rfl

lemma value_int (n : Int) : (value constant).Means (Number.intText n) (.int n) := by
  refine ⟨.int n, [], .int n, nofun, fun fuel rest hfuel _ => ?_⟩
  obtain ⟨fuel, rfl⟩ : ∃ n, fuel = n + 1 := ⟨fuel - 1, by omega⟩
  rfl

lemma value_string (s : String) : (value constant).Means (Text.stringLiteral s) (.string s) := by
  refine ⟨.string s, [], .string s, nofun, fun fuel rest hfuel _ => ?_⟩
  obtain ⟨fuel, rfl⟩ : ∃ n, fuel = n + 1 := ⟨fuel - 1, by omega⟩
  rfl

lemma value_list {ss : List String} {vs : List Value}
    (h : List.Forall₂ (value constant).Means ss vs) :
    (value constant).Means ("[" ++ ", ".intercalate ss ++ "]") (.list vs) := by
  obtain ⟨ts, hspells, hrow⟩ := exists_row (.mark ']') ", " (by decide) (by decide)
    (fun t ht => ⟨ht, trivial⟩) trivial h
  refine ⟨.mark '[', ts ++ [.mark ']'], ?_, nofun, fun fuel rest hfuel _ => ?_⟩
  · exact .enclosed (show _ = ['['] by simp) (show _ = [] ++ [']'] by simp) (by decide) (by decide)
      (by simp) (by simp) hspells
  · obtain ⟨fuel, rfl⟩ : ∃ n, fuel = n + 1 := ⟨fuel - 1, by omega⟩
    rw [List.length_append] at hfuel
    rw [List.cons_append, List.append_assoc]
    exact Reader.valueWithin_list (hrow fuel rest (by omega))

lemma entry_keyed {key : String} (hkey : isName key = true) (h : (value constant).Means s v) :
    (entry constant).Means (key ++ ": " ++ s) (key, v) := by
  obtain ⟨t, ts, hspells, -, hread⟩ := h
  refine ⟨.name key, .mark ':' :: t :: ts, .keyed hkey hspells, ⟨key, rfl⟩,
    fun fuel rest hfuel _ => ?_⟩
  simp only [List.length_cons] at hfuel
  exact Reader.entryWith_eq (hread fuel rest (by omega) trivial)

lemma value_object {ss : List String} {entries : List (String × Value)}
    (h : List.Forall₂ (entry constant).Means ss entries) :
    (value constant).Means ("\x7b" ++ ", ".intercalate ss ++ "\x7d") (.object entries) := by
  obtain ⟨ts, hspells, hrow⟩ := exists_row (.mark '\x7d') ", " (by decide) (by decide)
    (fun t ht => ⟨ne_mark_of_name ht, trivial⟩) trivial h
  refine ⟨.mark '\x7b', ts ++ [.mark '\x7d'], ?_, nofun, fun fuel rest hfuel _ => ?_⟩
  · exact .enclosed (show _ = ['\x7b'] by simp) (show _ = [] ++ ['\x7d'] by simp) (by decide)
      (by decide) (by simp) (by simp) hspells
  · obtain ⟨fuel, rfl⟩ : ∃ n, fuel = n + 1 := ⟨fuel - 1, by omega⟩
    rw [List.length_append] at hfuel
    rw [List.cons_append, List.append_assoc]
    exact Reader.valueWithin_object (hrow fuel rest (by omega))

lemma argument_keyed {key : String} (hkey : isName key = true)
    (h : (value constant).Means s v) : (argument constant).Means (key ++ ": " ++ s) ⟨key, v⟩ := by
  obtain ⟨t, ts, hspells, -, hread⟩ := h
  refine ⟨.name key, .mark ':' :: t :: ts, .keyed hkey hspells, ⟨key, rfl⟩,
    fun fuel rest hfuel _ => ?_⟩
  have hvalue : Reader.value constant (t :: ts ++ rest) = some (v, rest) :=
    hread (t :: ts ++ rest).length rest (by rw [List.length_append, List.length_cons]; omega)
      trivial
  exact Reader.argument_eq hvalue

end

/-! ## Selections -/

/-- The text behind the name of a field is the given arguments, in parentheses unless there are
none. -/
def IsArguments (s : String) (args : List Argument) : Prop :=
  ∃ ts, Spells s ts ∧ Trails s ∧
    (ts = [] ∨ ts.head? = some (.mark '(')) ∧
    ∀ rest, rest.head? ≠ some (.mark '(') → Reader.arguments false (ts ++ rest) = some (args, rest)

/-- Entries of a selection set. What stands behind one does not continue it. -/
def selection : Phrase SelectionNode where
  reader fuel := Reader.selectionWith (Reader.selectionSetWithin fuel)
  begins t := t = .spread ∨ ∃ key, t = .name key
  before t? := ∀ c ∈ [':', '(', '@', '\x7b'], t? ≠ some (.mark c)

/-- Selection sets in braces. -/
def selectionSet : Phrase (List SelectionNode) where
  reader := Reader.selectionSetWithin
  begins t := t = .mark '\x7b'

lemma isArguments_nil : IsArguments "" [] :=
  ⟨[], .empty, fun _ h => h, .inl rfl, fun _ h => Reader.optionalItems_of_head h⟩

lemma isArguments_cons {s : String} {a : Argument} {ss : List String} {args : List Argument}
    (h : List.Forall₂ (argument false).Means (s :: ss) (a :: args)) :
    IsArguments ("(" ++ ", ".intercalate (s :: ss) ++ ")") (a :: args) := by
  obtain ⟨ts, hspells, hrow⟩ := exists_row (.mark ')') ", " (by decide) (by decide)
    (fun t ht => ⟨ne_mark_of_name ht, trivial⟩) trivial h
  refine ⟨.mark '(' :: ts ++ [.mark ')'], ?_, fun cs _ => ?_, .inr rfl, fun rest _ => ?_⟩
  · exact .enclosed (show _ = ['('] by simp) (show _ = [] ++ [')'] by simp) (by decide) (by decide)
      (by simp) (by simp) hspells
  · simp only [String.toList_append, List.append_assoc]
    exact delimited_of_isMark (by decide) _
  · rw [List.append_assoc, List.cons_append]
    exact Reader.optionalItems_of_row (hrow ts.length rest (Nat.le_refl _)) (List.cons_ne_nil _ _)

/-- The text behind the arguments of a field is a selection set with a space in front, or
nothing. -/
def IsBelow (s : String) (subs : List SelectionNode) : Prop :=
  ∃ ts, Spells s ts ∧ Trails s ∧
    (∀ rest, rest.head? ≠ some (.mark '(') → (ts ++ rest).head? ≠ some (.mark '(')) ∧
    (∀ rest, rest.head? ≠ some (.mark ':') → (ts ++ rest).head? ≠ some (.mark ':')) ∧
    ∀ fuel rest, ts.length ≤ fuel → selection.before rest.head? →
      Reader.Below (Reader.selectionSetWithin fuel) (ts ++ rest) subs rest

lemma isBelow_nil : IsBelow "" [] := by
  refine ⟨[], .empty, fun _ h => h, fun _ h => h, fun _ h => h, fun fuel rest _ hbefore => ?_⟩
  simp only [selection, List.forall_mem_cons] at hbefore
  exact .inr ⟨hbefore.2.2.2.1, hbefore.2.2.1, rfl, rfl⟩

lemma isBelow_selectionSet {s : String} {subs : List SelectionNode}
    (h : selectionSet.Means s subs) : IsBelow (" " ++ s) subs := by
  obtain ⟨t, ts, hspells, rfl, hread⟩ := h
  refine ⟨.mark '\x7b' :: ts, ?_, fun rest _ => ?_, nofun, nofun, fun fuel rest hfuel _ => ?_⟩
  · intro rest us hrest hlexes
    simpa using Token.Lexes.blank (c := ' ') rfl (hspells rest us hrest hlexes)
  · simpa using delimited_of_isIgnored (c := ' ') rfl (s.toList ++ rest)
  · exact .inl ⟨rfl, hread fuel rest hfuel trivial⟩

/-- The name of a field with its alias in front. -/
def label (alias? : Option String) (key : String) : String :=
  match alias? with
  | none => key
  | some text => text ++ ": " ++ key

section

variable {alias? : Option String} {key s t : String} {args : List Argument}
  {subs nodes : List SelectionNode}

lemma spells_label (halias : ∀ text ∈ alias?, isName text = true) (hkey : isName key = true) :
    Spells (label alias? key) (Reader.labelTokens alias? key) := by
  cases alias? with
  | none => exact .name hkey
  | some text => exact .keyed (halias text rfl) (.name hkey)

/-- The name of a field with its alias, its arguments and what is below it. -/
lemma selection_field (alias? : Option String) (halias : ∀ text ∈ alias?, isName text = true)
    (hkey : isName key = true) (hargs : IsArguments s args) (hbelow : IsBelow t subs) :
    selection.Means (label alias? key ++ s ++ t) (.field alias? key args [] subs) := by
  obtain ⟨ts, hts, htrails, hhead, hread⟩ := hargs
  obtain ⟨us, hus, htrails', hparen, hcolon, hbelow⟩ := hbelow
  have htext := ((spells_label halias hkey).append hts htrails).append hus htrails'
  obtain ⟨text, ls, hlabel⟩ : ∃ text ls, Reader.labelTokens alias? key = .name text :: ls := by
    cases alias? <;> exact ⟨_, _, rfl⟩
  rw [hlabel] at htext
  refine ⟨.name text, ls ++ ts ++ us, htext, .inr ⟨text, rfl⟩, fun fuel rest hfuel hbefore => ?_⟩
  have hmarks := hbefore
  simp only [selection, List.forall_mem_cons] at hmarks
  have hstart : (ts ++ (us ++ rest)).head? ≠ some (.mark ':') := by
    rcases hhead with rfl | hhead
    · exact hcolon rest hmarks.1
    · rw [List.head?_append, hhead]
      nofun
  have hfield := Reader.selectionWith_label alias? key hstart
    (hread (us ++ rest) (hparen rest hmarks.2.1))
    (hbelow fuel rest (by simp at hfuel; omega) hbefore)
  rw [hlabel] at hfield
  rw [List.cons_append, List.append_assoc, List.append_assoc]
  exact hfield

/-- An inline fragment. -/
lemma selection_fragment {type : String} (htype : isName type = true)
    (h : selectionSet.Means s subs) :
    selection.Means ("... on " ++ type ++ " " ++ s) (.inlineFragment (some type) [] subs) := by
  obtain ⟨t, ts, hspells, rfl, hread⟩ := h
  have htext : Spells ("..." ++ " " ++ "on" ++ " " ++ type ++ " " ++ s)
      ([.spread] ++ [.name "on"] ++ [.name type] ++ .mark '\x7b' :: ts) := by
    have hblank : " ".toList.all isIgnored = true := by decide
    have hon : Spells ("..." ++ " " ++ "on") ([.spread] ++ [.name "on"]) :=
      Spells.spread.separated (by decide) hblank (.name (by decide))
    exact (hon.separated (by decide) hblank (.name htype)).separated (by decide) hblank hspells
  refine ⟨.spread, .name "on" :: .name type :: .mark '\x7b' :: ts, htext, .inl rfl,
    fun fuel rest hfuel _ => ?_⟩
  simp only [List.length_cons] at hfuel
  exact Reader.selectionWith_spread rfl (hread fuel rest (by omega) trivial)

/-- A selection set. -/
lemma selectionSet_row {ss : List String} (h : List.Forall₂ selection.Means ss nodes)
    (hne : nodes ≠ []) :
    selectionSet.Means ("\x7b " ++ " ".intercalate ss ++ " \x7d") nodes := by
  have hbegins (t : Token) (ht : selection.begins t) :
      t ≠ .mark '\x7d' ∧ selection.before (some t) := by
    rcases ht with rfl | ⟨key, rfl⟩
    · exact ⟨nofun, nofun⟩
    · exact ⟨nofun, nofun⟩
  obtain ⟨ts, hspells, hrow⟩ := exists_row (.mark '\x7d') " " (by decide) (by decide) hbegins
    (by simp [selection]) h
  refine ⟨.mark '\x7b', ts ++ [.mark '\x7d'], ?_, rfl, fun fuel rest hfuel _ => ?_⟩
  · exact .enclosed (show _ = '\x7b' :: [' '] by simp) (show _ = [' '] ++ ['\x7d'] by simp)
      (by decide) (by decide) (by decide) (by decide) hspells
  · obtain ⟨fuel, rfl⟩ : ∃ n, fuel = n + 1 := ⟨fuel - 1, by omega⟩
    rw [List.length_append] at hfuel
    rw [List.cons_append, List.append_assoc]
    exact Reader.selectionSetWithin_of_row (hrow fuel rest (by omega)) hne

end

end Phrase

/-! ## Whole texts -/

/-- A text that means a value and nothing else. -/
theorem readValue?_of_means {constant : Bool} {s : String} {v : Value}
    (h : (Phrase.value constant).Means s v) : readValue? constant s = some v := by
  obtain ⟨t, ts, hspells, -, hread⟩ := h
  have htokens := Token.ofChars?_of_lexes (hspells [] [] trivial .nil)
  rw [List.append_nil, List.append_nil] at htokens
  have hvalue : Reader.value constant (t :: ts) = some (v, []) := by
    have hvalue := hread (t :: ts).length [] (by simp) trivial
    rwa [List.append_nil] at hvalue
  unfold readValue?
  rw [htokens, Option.bind_eq_bind, Option.bind_some, hvalue]
  rfl

/-- A document of one operation, from its header and its selection set. -/
theorem read?_operation {kind : OperationKind} {name? : Option String} {header s : String}
    {nodes : List SelectionNode}
    (hheader : Spells header (.name kind.keyword :: name?.toList.map Token.name))
    (h : Phrase.selectionSet.Means s nodes) :
    read? (header ++ " " ++ s) = some [.operation ⟨kind, name?, [], [], nodes⟩] := by
  obtain ⟨t, ts, hspells, rfl, hread⟩ := h
  have htext := hheader.separated (show " ".toList ≠ [] by decide) (by decide) hspells
  have htokens := Token.ofChars?_of_lexes (htext [] [] trivial .nil)
  rw [List.append_nil, List.append_nil] at htokens
  have hset : Reader.selectionSet (.mark '\x7b' :: ts) = some (nodes, []) := by
    have hset := hread (.mark '\x7b' :: ts).length [] (by simp) trivial
    rwa [List.append_nil] at hset
  unfold read?
  rw [htokens, List.cons_append, Option.bind_eq_bind, Option.bind_some,
    Reader.document_eq rfl hset]
  rfl

end ClientGen.Document
