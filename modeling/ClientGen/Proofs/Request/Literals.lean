import ClientGen.Proofs.Document.Phrases
import ClientGen.Request.Literal

/-!
# What the literals of argument values mean

A plain value has a literal that the grammar reads, and it is read as the same value: an item at
each item's place, and under each key what was under it. What is unset is read as null, because a
value has to stand there.

* `Value.means_literal` is the meaning of a literal, and `literal_reads_back` what is read of it as
  a whole text.
* `isArguments_parenthesised` is the meaning of arguments in parentheses.
-/

namespace ClientGen.Request

open Document (Phrase)
open Document.Token (isName)

namespace Value

/- The recursion is that of the literal. -/
mutual

/-- A value of the kinds that the grammar knows, floats apart: its enumeration members are names of
enum values, and its keys are names. -/
def isPlain : Value → Bool
  | .null | .unset | .boolean _ | .int _ | .text _ => true
  | .enum name value =>
    isName (enumName name value) && !Document.Reader.isReservedValue (enumName name value)
  | .sequence _ items => arePlain items
  | .mapping entries => arePlainEntries entries
  | _ => false

/-- All items are plain. -/
def arePlain : List Value → Bool
  | [] => true
  | v :: vs => v.isPlain && arePlain vs

/-- All keys are names, and all values are plain. -/
def arePlainEntries : List (Value × Value) → Bool
  | [] => true
  | (.text key, v) :: rest => isName key && v.isPlain && arePlainEntries rest
  | _ :: _ => false

end

mutual

/-- What the literal of a plain value means. -/
def meaning : Value → Document.Value
  | .boolean b => .boolean b
  | .int n => .int n
  | .text s => .string s
  | .enum name value => .enum (enumName name value)
  | .sequence _ items => .list (meanings items)
  | .mapping entries => .object (entryMeanings entries)
  | _ => .null

/-- What the literals of some items mean. -/
def meanings : List Value → List Document.Value
  | [] => []
  | v :: vs => v.meaning :: meanings vs

/-- What the entries of a mapping mean. -/
def entryMeanings : List (Value × Value) → List (String × Document.Value)
  | [] => []
  | (key, v) :: rest => (key.keyText, v.meaning) :: entryMeanings rest

end

/-- What is no reserved value means the member of an enumeration. -/
lemma valueOfName_eq {text : String} (h : Document.Reader.isReservedValue text = false) :
    Document.Reader.valueOfName text = .enum text := by
  unfold Document.Reader.isReservedValue at h
  simp only [Bool.or_eq_false_iff, decide_eq_false_iff_not] at h
  simp [Document.Reader.valueOfName, h]

lemma keyText_text (key : String) : (text key).keyText = key := by
  rw [keyText]

mutual

/-- A plain value has a literal, which means the value. -/
theorem means_literal (constant : Bool) (v : Value) (h : v.isPlain = true) :
    ∃ s, v.literal = .ok s ∧ (Phrase.value constant).Means s v.meaning := by
  cases v with
  | null => exact ⟨"null", rfl, Phrase.value_name (by decide)⟩
  | unset => exact ⟨"null", rfl, Phrase.value_name (by decide)⟩
  | boolean b =>
    cases b with
    | false => exact ⟨"false", rfl, Phrase.value_name (by decide)⟩
    | true => exact ⟨"true", rfl, Phrase.value_name (by decide)⟩
  | int n => exact ⟨Number.intText n, rfl, Phrase.value_int n⟩
  | text s => exact ⟨Text.stringLiteral s, rfl, Phrase.value_string s⟩
  | enum name value =>
    simp only [isPlain, Bool.and_eq_true, Bool.not_eq_true'] at h
    have hmeans : (Phrase.value constant).Means _ _ := Phrase.value_name h.1
    rw [valueOfName_eq h.2] at hmeans
    exact ⟨enumName name value, rfl, hmeans⟩
  | sequence kind items =>
    obtain ⟨ss, hss, hmeans⟩ := means_literals constant items h
    refine ⟨bracketed ss, ?_, Phrase.value_list hmeans⟩
    rw [literal, hss]
    rfl
  | mapping entries =>
    obtain ⟨ss, hss, hmeans⟩ := means_entryLiterals constant entries h
    refine ⟨braced ss, ?_, Phrase.value_object hmeans⟩
    rw [literal, hss]
    rfl
  | _ => cases h

theorem means_literals (constant : Bool) (vs : List Value) (h : arePlain vs = true) :
    ∃ ss, literals vs = .ok ss ∧ List.Forall₂ (Phrase.value constant).Means ss (meanings vs) := by
  cases vs with
  | nil => exact ⟨[], rfl, .nil⟩
  | cons v vs =>
    simp only [arePlain, Bool.and_eq_true] at h
    obtain ⟨s, hs, hmeans⟩ := means_literal constant v h.1
    obtain ⟨ss, hss, hmore⟩ := means_literals constant vs h.2
    refine ⟨s :: ss, ?_, .cons hmeans hmore⟩
    rw [literals, hs, hss]
    rfl

theorem means_entryLiterals (constant : Bool) (entries : List (Value × Value))
    (h : arePlainEntries entries = true) :
    ∃ ss, entryLiterals entries = .ok ss ∧
      List.Forall₂ (Phrase.entry constant).Means ss (entryMeanings entries) := by
  cases entries with
  | nil => exact ⟨[], rfl, .nil⟩
  | cons e rest =>
    obtain ⟨key, v⟩ := e
    cases key with
    | text key =>
      simp only [arePlainEntries, Bool.and_eq_true] at h
      obtain ⟨s, hs, hmeans⟩ := means_literal constant v h.1.2
      obtain ⟨ss, hss, hmore⟩ := means_entryLiterals constant rest h.2
      refine ⟨(key ++ ": " ++ s) :: ss, ?_, ?_⟩
      · rw [entryLiterals, hs, hss, keyText_text]
        rfl
      · rw [entryMeanings, keyText_text]
        exact .cons (Phrase.entry_keyed h.1.1 hmeans) hmore
    | _ => cases h

end

end Value

/-! ## Arguments -/

/-- Named arguments whose names are names of the grammar, and whose values are plain. -/
def ArePlain (arguments : List (String × Value)) : Prop :=
  ∀ a ∈ arguments, isName a.1 = true ∧ a.2.isPlain = true

instance (arguments : List (String × Value)) : Decidable (ArePlain arguments) :=
  inferInstanceAs (Decidable (∀ a ∈ arguments, isName a.1 = true ∧ a.2.isPlain = true))

/-- What named arguments mean. -/
def argumentMeanings (arguments : List (String × Value)) : List Document.Argument :=
  arguments.map fun a => ⟨a.1, a.2.meaning⟩

lemma means_argumentTexts {arguments : List (String × Value)} (h : ArePlain arguments) :
    ∃ ss, arguments.mapM argumentText = .ok ss ∧
      List.Forall₂ (Phrase.argument false).Means ss (argumentMeanings arguments) := by
  induction arguments with
  | nil => exact ⟨[], rfl, .nil⟩
  | cons a rest ih =>
    obtain ⟨hname, hplain⟩ := h a List.mem_cons_self
    obtain ⟨s, hs, hmeans⟩ := Value.means_literal false a.2 hplain
    obtain ⟨ss, hss, hmore⟩ := ih fun b hb => h b (List.mem_cons_of_mem _ hb)
    refine ⟨(a.1 ++ ": " ++ s) :: ss, ?_, .cons (Phrase.argument_keyed hname hmeans) hmore⟩
    rw [List.mapM_cons, hss, argumentText, hs]
    rfl

theorem isArguments_parenthesised {arguments : List (String × Value)} (h : ArePlain arguments) :
    ∃ s, parenthesised arguments = .ok s ∧
      Phrase.IsArguments s (argumentMeanings arguments) := by
  obtain ⟨ss, hss, hmeans⟩ := means_argumentTexts h
  unfold parenthesised
  cases arguments with
  | nil => exact ⟨"", rfl, Phrase.isArguments_nil⟩
  | cons a rest =>
    cases hmeans with
    | @cons s _ ss _ hfirst hmore =>
      refine ⟨"(" ++ ", ".intercalate (s :: ss) ++ ")", ?_,
        Phrase.isArguments_cons (.cons hfirst hmore)⟩
      rw [if_neg (by simp), argumentTexts, hss]
      rfl

/-! ## Whole texts -/

/-- Every plain value has a literal, and the grammar reads the whole of it as one value: null for
null and for what is unset, the same truth value, integer, text and name of an enumeration member,
and lists and objects with the same items, keys and values in order. -/
theorem literal_reads_back (constant : Bool) {v : Value} (h : v.isPlain = true) :
    ∃ text, v.literal = .ok text ∧ Document.readValue? constant text = some v.meaning := by
  obtain ⟨text, htext, hmeans⟩ := v.means_literal constant h
  exact ⟨text, htext, Document.readValue?_of_means hmeans⟩

/-- A mapping with a value of each kind in it. -/
def filmFilter : Value :=
  .mapping [(.text "title", .text "a\"b\\\n\x01é😀"),
    (.text "year", .int (-12345678901234567890123)),
    (.text "genre", .enum "drama" (.text "DRAMA")),
    (.text "flags",
      .sequence .list [.boolean true, .null, .unset, .sequence .list [], .mapping []])]

/-- The literal of the mapping is read as an object with the same entries. -/
theorem literal_reads_back_filmFilter :
    filmFilter.isPlain = true
      ∧ ∃ text, filmFilter.literal = .ok text
        ∧ Document.readValue? true text = some (.object [("title", .string "a\"b\\\n\x01é😀"),
          ("year", .int (-12345678901234567890123)), ("genre", .enum "DRAMA"),
          ("flags", .list [.boolean true, .null, .null, .list [], .object []])]) := by
  have hplain : filmFilter.isPlain = true := by decide
  obtain ⟨text, htext, hread⟩ := literal_reads_back true hplain
  refine ⟨hplain, text, htext, hread.trans ?_⟩
  simp only [filmFilter, Value.meaning, Value.entryMeanings, Value.meanings, Value.keyText_text,
    Value.enumName]

end ClientGen.Request
