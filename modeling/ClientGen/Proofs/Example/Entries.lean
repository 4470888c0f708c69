import ClientGen.Example.Operations
import ClientGen.FieldFilter
import Mathlib.Tactic.Lemma

/-!
# Entries of selection sets and names of selected fields

`convert` goes down into fields and fragments at once. Looked at one level at a time it does
little: inline fragments without a type condition are replaced by what they hold (`entries`), and
of the entries that are left each becomes one field or one fragment, or nothing.

* `convert_eq` is a selection set entry by entry; `mem_convert_fst` and `mem_convert_snd` say what
  is in its two lists.
* `map_name_mergeInto`, `hasFor_iff` and `mem_map_name_selectFields` follow the names of selected
  fields through the merging, the folding of fragments and the configuration.
-/

namespace ClientGen

open ClientGen.Document

/-! ## Entries -/

namespace Document.SelectionNode

/-- The entries of a selection set, with those of an inline fragment without a type condition in
the place of it. -/
def entries : List SelectionNode → List SelectionNode
  | [] => []
  | .inlineFragment none _ selections :: rest => entries selections ++ entries rest
  | .field alias? name arguments directives selections :: rest =>
    .field alias? name arguments directives selections :: entries rest
  | .inlineFragment (some type) directives selections :: rest =>
    .inlineFragment (some type) directives selections :: entries rest
  | .spread name directives :: rest => .spread name directives :: entries rest

/-- All else is an entry itself. -/
lemma mem_entries {nodes : List SelectionNode} {node : SelectionNode} (h : node ∈ nodes)
    (htyped : ∀ directives selections, node ≠ .inlineFragment none directives selections) :
    node ∈ entries nodes := by
  fun_induction entries nodes with grind

end Document.SelectionNode

open Document.SelectionNode (entries)

variable {definitions : List Fragment} {spreading : List String} {nodes : List SelectionNode}

/-- The selection with what is written in a selection set. `spreading` lists the fragments that are
being written out. -/
def written (definitions : List Fragment) (spreading : List String) (name : String)
    (nodes : List SelectionNode) : Selection :=
  .mk name (convert definitions spreading nodes).1 (convert definitions spreading nodes).2

namespace Document.SelectionNode

/-- The field that an entry stands for. -/
def field? (definitions : List Fragment) (spreading : List String) :
    SelectionNode → Option Selection
  | .field _ name _ _ selections => some (written definitions spreading name selections)
  | _ => none

/-- The fragment that an entry stands for: none if it is not defined, or is being written out. -/
def fragment? (definitions : List Fragment) (spreading : List String) :
    SelectionNode → Option Selection
  | .inlineFragment (some type) _ selections =>
    some (written definitions spreading type selections)
  | .spread name _ =>
    (findFragment? definitions name).bind fun f =>
      if name ∈ spreading then none
      else some (written definitions (name :: spreading) f.typeCondition f.selections)
  | _ => none

end Document.SelectionNode

/-- The fields and the fragments of a selection set are those of its entries, in order. -/
lemma convert_eq (definitions : List Fragment) (spreading : List String)
    (nodes : List SelectionNode) :
    convert definitions spreading nodes
      = ((entries nodes).filterMap (SelectionNode.field? definitions spreading),
        (entries nodes).filterMap (SelectionNode.fragment? definitions spreading)) := by
  fun_induction entries nodes with
  | case1 => rw [convert]; rfl
  | case2 directives selections rest ih ihrest =>
    rw [convert, ih, ihrest, List.filterMap_append, List.filterMap_append]
  | case3 alias? name arguments directives selections rest ih =>
    rw [convert, ih]
    rfl
  | case4 type directives selections rest ih =>
    rw [convert, ih]
    rfl
  | case5 name directives rest ih =>
    rw [convert, ih, List.filterMap_cons, List.filterMap_cons]
    simp only [SelectionNode.field?, SelectionNode.fragment?]
    -- a fragment that is not defined, one that is being written out, and one that is written out
    split
    · rename_i hnone
      rw [hnone]
      rfl
    · rename_i f hf
      rw [hf, Option.bind_some]
      split <;> rfl

/-- A field of a selection set is written in one of its entries. -/
lemma mem_convert_fst {s : Selection} :
    s ∈ (convert definitions spreading nodes).1 ↔
      ∃ alias? name arguments directives selections,
        .field alias? name arguments directives selections ∈ entries nodes
          ∧ s = written definitions spreading name selections := by
  rw [convert_eq, List.mem_filterMap]
  constructor
  · rintro ⟨node, hnode, hfield⟩
    cases node with
    | field => cases hfield; exact ⟨_, _, _, _, _, hnode, rfl⟩
    | inlineFragment => cases hfield
    | spread => cases hfield
  · rintro ⟨_, _, _, _, _, hnode, rfl⟩
    exact ⟨_, hnode, rfl⟩

/-- A fragment of a selection set is written in one of its entries, or in the definition of a
fragment that one of them spreads. -/
lemma mem_convert_snd {s : Selection} :
    s ∈ (convert definitions spreading nodes).2 ↔
      (∃ type directives selections,
        .inlineFragment (some type) directives selections ∈ entries nodes
          ∧ s = written definitions spreading type selections)
      ∨ ∃ name directives f, .spread name directives ∈ entries nodes
          ∧ findFragment? definitions name = some f ∧ name ∉ spreading
          ∧ s = written definitions (name :: spreading) f.typeCondition f.selections := by
  rw [convert_eq, List.mem_filterMap]
  constructor
  · rintro ⟨node, hnode, hfragment⟩
    cases node with
    | field => cases hfragment
    | inlineFragment type? =>
      cases type? with
      | none => cases hfragment
      | some type => cases hfragment; exact .inl ⟨_, _, _, hnode, rfl⟩
    | spread name =>
      obtain ⟨f, hdefinition, hcut⟩ := Option.bind_eq_some_iff.mp hfragment
      obtain ⟨hnew, heq⟩ := Option.ite_none_left_eq_some.mp hcut
      exact .inr ⟨_, _, f, hnode, hdefinition, hnew, (Option.some.inj heq).symm⟩
  · rintro (⟨_, _, _, hnode, rfl⟩ | ⟨_, _, f, hnode, hdefinition, hnew, rfl⟩)
    · exact ⟨_, hnode, rfl⟩
    · refine ⟨_, hnode, ?_⟩
      rw [SelectionNode.fragment?, hdefinition, Option.bind_some, if_neg hnew]

/-! ## Names -/

namespace Selection

/-- Merging a selection into others adds its name, if it is a new one. -/
lemma map_name_mergeInto (s : Selection) (ts : List Selection) :
    (mergeInto s ts).map name
      = if s.name ∈ ts.map name then ts.map name else ts.map name ++ [s.name] := by
  induction ts with
  | nil => rfl
  | cons t ts ih =>
    rw [mergeInto]
    by_cases hname : t.name = s.name
    · have hmerged : (t.merged s).name = t.name := rfl
      rw [if_pos hname, List.map_cons, List.map_cons, hmerged, hname, if_pos List.mem_cons_self]
    · rw [if_neg hname, List.map_cons, List.map_cons, ih]
      simp only [List.mem_cons, Ne.symm hname, false_or]
      split <;> rfl

lemma mergeByName_concat (ss : List Selection) (s : Selection) :
    mergeByName (ss ++ [s]) = mergeInto s (mergeByName ss) := by
  rw [mergeByName, List.foldl_append]
  rfl

/-- Merging neither loses nor adds a name. -/
lemma mem_map_name_mergeByName {field : String} {ss : List Selection} :
    field ∈ (mergeByName ss).map name ↔ field ∈ ss.map name := by
  suffices h : ∀ ts : List Selection,
      field ∈ (ss.foldl (fun merged s => mergeInto s merged) ts).map name
        ↔ field ∈ ts.map name ∨ field ∈ ss.map name by
    simpa [mergeByName] using h []
  induction ss with
  | nil => simp
  | cons s ss ih =>
    intro ts
    rw [List.foldl_cons, ih, map_name_mergeInto, List.map_cons, List.mem_cons]
    by_cases hnew : s.name ∈ ts.map name
    · rw [if_pos hnew]
      constructor
      · exact Or.imp_right .inr
      · rintro (h | rfl | h)
        · exact .inl h
        · exact .inl hnew
        · exact .inr h
    · rw [if_neg hnew, List.mem_append, List.mem_singleton, or_assoc]

/-- Of the fields that are selected for a type, one has the name. -/
def HasFor (s : Selection) (type field : String) : Prop :=
  field ∈ (s.fieldsFor (some type)).map name

/-- For a type the fields directly below are selected, and those directly below a fragment on the
type. -/
lemma hasFor_iff {s : Selection} {type field : String} :
    s.HasFor type field ↔ field ∈ s.fields.map name
      ∨ ∃ t ∈ s.fragments, t.name = type ∧ field ∈ t.fields.map name := by
  simp only [HasFor, fieldsFor, mem_map_name_mergeByName, List.map_append, List.mem_append,
    fragmentsOn, List.map_flatMap, List.mem_flatMap, List.mem_filter, decide_eq_true_eq, and_assoc]

lemma hasFor_merged {s t : Selection} {type field : String} :
    (s.merged t).HasFor type field ↔ s.HasFor type field ∨ t.HasFor type field := by
  have hfields : (s.merged t).fields = s.fields ++ t.fields := rfl
  have hfragments : (s.merged t).fragments = s.fragments ++ t.fragments := rfl
  simp only [hasFor_iff, hfields, hfragments, List.map_append, List.mem_append, or_and_right,
    exists_or]
  exact or_or_or_comm

/-- Where a field is selected several times, it has what each of these has. -/
lemma hasFor_foldl_merged {s : Selection} {ss : List Selection} {type field : String} :
    (ss.foldl merged s).HasFor type field ↔ ∃ t ∈ s :: ss, t.HasFor type field := by
  induction ss generalizing s with
  | nil => simp
  | cons t ts ih =>
    rw [List.foldl_cons, ih]
    simp only [List.mem_cons, exists_eq_or_imp, hasFor_merged, or_assoc]

end Selection

namespace Config

variable {c : Config} {type field : String} {fields : List Field} {root : Bool} {s : Selection}

lemma isSome_lastNamed? : (lastNamed? fields field).isSome ↔ field ∈ fields.map (·.name) := by
  simp [lastNamed?, fieldNamed?]

lemma name_of_lastNamed? {f : Field} (h : lastNamed? fields field = some f) : f.name = field := by
  simpa using List.find?_some h

/-- With an example selection the fields are kept that the configuration allows and that are
selected for the type. -/
lemma mem_map_name_selectFields :
    field ∈ (c.selectFields type fields (some s) root).fields.map (·.name)
      ↔ field ∈ (c.allowedFields type fields root).map (·.name)
        ∧ s.HasFor type field := by
  simp only [selectFields, selectedFields, Selection.HasFor, List.mem_map, List.mem_filterMap]
  constructor
  · rintro ⟨f, ⟨t, ht, hf⟩, rfl⟩
    have hallowed : t.name ∈ (c.allowedFields type fields root).map (·.name) :=
      isSome_lastNamed?.mp (Option.isSome_of_eq_some hf)
    have hname : f.name = t.name := name_of_lastNamed? hf
    rw [hname]
    exact ⟨List.mem_map.mp hallowed, t, ht, rfl⟩
  · rintro ⟨hallowed, t, ht, rfl⟩
    obtain ⟨f, hf⟩ := Option.isSome_iff_exists.mp
      (isSome_lastNamed?.mpr (List.mem_map.mpr hallowed))
    exact ⟨f, ⟨t, ht, hf⟩, name_of_lastNamed? hf⟩

end Config

end ClientGen
