import ClientGen.Proofs.Request.Literals
import ClientGen.Request.Selection
import Mathlib.Data.List.Forall2

/-!
# What the texts of selections mean

The text of a selection tree is read as a selection set that mirrors the tree: the fields in their
order, each with its arguments and the selection below it, then the fragments. Where there is
neither a field nor a fragment, the name of the type is selected.

* `SelectionTree.means_text` is the meaning of the text of a tree.
-/

namespace ClientGen.Request

open Document (Phrase SelectionNode)
open Document.Token (isName)

/-- A field that is selected under its own name, with what is selected below it. -/
def selectedField (name : String) (arguments : List (String × Value))
    (below : List SelectionNode) : SelectionNode :=
  .field none name (argumentMeanings arguments) [] below

/-- The selections, and of none the name of the type. -/
def orTypename : List SelectionNode → List SelectionNode
  | [] => [selectedField "__typename" [] []]
  | nodes => nodes

/-- A field is written as its name, its arguments and what is below it. -/
lemma means_selectedField {name given text : String} {arguments : List (String × Value)}
    {below : List SelectionNode} (hname : isName name = true)
    (hargs : Phrase.IsArguments given (argumentMeanings arguments))
    (hbelow : Phrase.IsBelow text below) :
    Phrase.selection.Means (name ++ given ++ text) (selectedField name arguments below) :=
  Phrase.selection_field none nofun hname hargs hbelow

lemma means_inBraces {ss : List String} {nodes : List SelectionNode}
    (h : List.Forall₂ Phrase.selection.Means ss nodes) :
    Phrase.selectionSet.Means (SelectionTree.inBraces ss) (orTypename nodes) := by
  cases h with
  | nil =>
    have htypename : Phrase.selection.Means ("__typename" ++ "" ++ "")
        (selectedField "__typename" [] []) :=
      means_selectedField (by decide) Phrase.isArguments_nil Phrase.isBelow_nil
    rw [String.append_empty, String.append_empty] at htypename
    have hset := Phrase.selectionSet_row (.cons htypename .nil) (List.cons_ne_nil _ _)
    rwa [String.intercalate_singleton] at hset
  | cons hfirst hmore => exact Phrase.selectionSet_row (.cons hfirst hmore) (List.cons_ne_nil _ _)

/-- The arguments that are recorded for a field. -/
def recordedArguments (field : String) (recorded : List (String × List (String × Value))) :
    List (String × Value) :=
  (Entries.get? field recorded).getD []

namespace SelectionTree

/-- The type that a fragment is written with. -/
def condition (t : SelectionTree) : String :=
  t.type?.getD "None"

/- The recursion is that of the text. -/
mutual

/-- All names are names of the grammar, and the arguments of all fields are plain. -/
def IsPlain : SelectionTree → Prop
  | node _ fields arguments fragments =>
    ArePlainFields arguments fields ∧ ArePlainFragments fragments

/-- The fields are plain, and what is below them. -/
def ArePlainFields (arguments : List (String × List (String × Value))) :
    List (String × Option SelectionTree) → Prop
  | [] => True
  | (name, none) :: rest =>
    isName name = true ∧ ArePlain (recordedArguments name arguments) ∧
      ArePlainFields arguments rest
  | (name, some below) :: rest =>
    isName name = true ∧ ArePlain (recordedArguments name arguments) ∧ below.IsPlain ∧
      ArePlainFields arguments rest

/-- The fragments are plain, and their types have names of the grammar. -/
def ArePlainFragments : List SelectionTree → Prop
  | [] => True
  | f :: fs => isName f.condition = true ∧ f.IsPlain ∧ ArePlainFragments fs

end

mutual

/-- What the text of a selection means. -/
def meaning : SelectionTree → List SelectionNode
  | node _ fields arguments fragments =>
    orTypename (fieldMeanings arguments fields ++ fragmentMeanings fragments)

/-- What the texts of fields mean. -/
def fieldMeanings (arguments : List (String × List (String × Value))) :
    List (String × Option SelectionTree) → List SelectionNode
  | [] => []
  | (name, none) :: rest =>
    selectedField name (recordedArguments name arguments) [] :: fieldMeanings arguments rest
  | (name, some below) :: rest =>
    selectedField name (recordedArguments name arguments) below.meaning ::
      fieldMeanings arguments rest

/-- What the texts of fragments mean. -/
def fragmentMeanings : List SelectionTree → List SelectionNode
  | [] => []
  | f :: fs => .inlineFragment (some f.condition) [] f.meaning :: fragmentMeanings fs

end

lemma arePlainFields_of_forall {arguments : List (String × List (String × Value))}
    {fields : List (String × Option SelectionTree)}
    (h : ∀ f ∈ fields, isName f.1 = true ∧ ArePlain (recordedArguments f.1 arguments) ∧
      ∀ below ∈ f.2, below.IsPlain) : ArePlainFields arguments fields := by
  induction fields with
  | nil => trivial
  | cons f rest ih =>
    obtain ⟨name, below?⟩ := f
    obtain ⟨hname, hplain, hbelow⟩ := h (name, below?) List.mem_cons_self
    have hrest := ih fun f hf => h f (List.mem_cons_of_mem _ hf)
    cases below? with
    | none => exact ⟨hname, hplain, hrest⟩
    | some below => exact ⟨hname, hplain, hbelow below rfl, hrest⟩

lemma arePlainFragments_of_forall {fragments : List SelectionTree}
    (h : ∀ f ∈ fragments, isName f.condition = true ∧ f.IsPlain) :
    ArePlainFragments fragments := by
  induction fragments with
  | nil => trivial
  | cons f fs ih =>
    obtain ⟨htype, hplain⟩ := h f List.mem_cons_self
    exact ⟨htype, hplain, ih fun f hf => h f (List.mem_cons_of_mem _ hf)⟩

lemma fieldMeanings_eq_map (arguments : List (String × List (String × Value)))
    (fields : List (String × Option SelectionTree)) :
    fieldMeanings arguments fields = fields.map fun f =>
      selectedField f.1 (recordedArguments f.1 arguments) ((f.2.map meaning).getD []) := by
  induction fields with
  | nil => rfl
  | cons f rest ih =>
    obtain ⟨name, below?⟩ := f
    cases below? <;> exact congrArg (_ :: ·) ih

lemma fragmentMeanings_eq_map (fragments : List SelectionTree) :
    fragmentMeanings fragments
      = fragments.map fun f => .inlineFragment (some f.condition) [] f.meaning := by
  induction fragments with
  | nil => rfl
  | cons f fs ih => exact congrArg (_ :: ·) ih

mutual

/-- The text of a plain selection means the selection. -/
theorem means_text (t : SelectionTree) (h : t.IsPlain) :
    ∃ s, t.text = .ok s ∧ Phrase.selectionSet.Means s t.meaning := by
  cases t with
  | node type? fields arguments fragments =>
    obtain ⟨hfields, hfragments⟩ := h
    obtain ⟨ss, hss, hselected⟩ := means_fieldTexts arguments fields hfields
    obtain ⟨us, hus, hnarrowed⟩ := means_fragmentTexts fragments hfragments
    refine ⟨inBraces (ss ++ us), ?_, means_inBraces (List.rel_append hselected hnarrowed)⟩
    rw [text, hss, hus]
    rfl

theorem means_fieldTexts (arguments : List (String × List (String × Value)))
    (fields : List (String × Option SelectionTree)) (h : ArePlainFields arguments fields) :
    ∃ ss, fieldTexts arguments fields = .ok ss ∧
      List.Forall₂ Phrase.selection.Means ss (fieldMeanings arguments fields) := by
  cases fields with
  | nil => exact ⟨[], rfl, .nil⟩
  | cons f rest =>
    obtain ⟨name, below?⟩ := f
    cases below? with
    | none =>
      obtain ⟨hname, hplain, hrest⟩ := h
      obtain ⟨given, hgiven, hargs⟩ := isArguments_parenthesised hplain
      obtain ⟨ss, hss, hmore⟩ := means_fieldTexts arguments rest hrest
      have hfield := means_selectedField hname hargs Phrase.isBelow_nil
      rw [String.append_empty] at hfield
      refine ⟨(name ++ given) :: ss, ?_, .cons hfield hmore⟩
      unfold recordedArguments at hgiven
      rw [fieldTexts, hgiven, hss]
      rfl
    | some below =>
      obtain ⟨hname, hplain, hbelow, hrest⟩ := h
      obtain ⟨given, hgiven, hargs⟩ := isArguments_parenthesised hplain
      obtain ⟨inner, hinner, hmeans⟩ := means_text below hbelow
      obtain ⟨ss, hss, hmore⟩ := means_fieldTexts arguments rest hrest
      have hfield := means_selectedField hname hargs (Phrase.isBelow_selectionSet hmeans)
      rw [← String.append_assoc] at hfield
      refine ⟨(name ++ given ++ " " ++ inner) :: ss, ?_, .cons hfield hmore⟩
      unfold recordedArguments at hgiven
      rw [fieldTexts, hgiven, hinner, hss]
      rfl

theorem means_fragmentTexts (fragments : List SelectionTree) (h : ArePlainFragments fragments) :
    ∃ ss, fragmentTexts fragments = .ok ss ∧
      List.Forall₂ Phrase.selection.Means ss (fragmentMeanings fragments) := by
  cases fragments with
  | nil => exact ⟨[], rfl, .nil⟩
  | cons f fs =>
    obtain ⟨htype, hplain, hrest⟩ := h
    obtain ⟨inner, hinner, hmeans⟩ := means_text f hplain
    obtain ⟨ss, hss, hmore⟩ := means_fragmentTexts fs hrest
    refine ⟨(fragmentHead f.type? ++ inner) :: ss, ?_,
      .cons (Phrase.selection_fragment htype hmeans) hmore⟩
    rw [fragmentTexts, hinner, hss]
    rfl

end

end SelectionTree

end ClientGen.Request
