import ClientGen.Proofs.Example.Entries
import ClientGen.Proofs.Keys
import Mathlib.Data.List.Induction

/-!
# Allowed fields, with and without an example

The configuration allows a field or not, whatever the example selects, and the example only chooses
among the allowed fields: each that it names, once, where it names it first. What it names besides
and the type declares is worth a warning.

* `Config.Allows` is the condition on one field; `Config.mem_allowedFields` says that the two
  filters in a row are this condition.
* `Selection.namesFor` lists what an example names for a type; `Selection.inOrderOf_fieldsFor` says
  that merging keeps the first of each name in its place.
* `Config.selectFields_exactly` puts both together.
-/

namespace ClientGen

/-! ## Names in the order of others -/

/-- The names stand in the order in which they come first in another list, none of them twice. -/
def InOrderOf (order names : List String) : Prop :=
  names.Pairwise fun a b => order.idxOf a < order.idxOf b

variable {order names more : List String} {new : String}

lemma InOrderOf.sublist (h : InOrderOf order names) (hsub : more.Sublist names) :
    InOrderOf order more :=
  List.Pairwise.sublist hsub h

/-- What is appended to the order comes later. -/
lemma InOrderOf.append (h : InOrderOf order names) (hmem : ∀ name ∈ names, name ∈ order) :
    InOrderOf (order ++ more) names := by
  refine h.imp_of_mem fun {a b} ha hb hlt => ?_
  rwa [List.idxOf_append_of_mem (hmem a ha), List.idxOf_append_of_mem (hmem b hb)]

/-- A name that is new comes last. -/
lemma InOrderOf.concat (h : InOrderOf order names) (hmem : ∀ name ∈ names, name ∈ order)
    (hnew : new ∉ order) : InOrderOf (order ++ [new]) (names ++ [new]) := by
  refine List.pairwise_append.mpr
    ⟨h.append hmem, List.pairwise_singleton _ _, fun a ha b hb => ?_⟩
  obtain rfl := List.mem_singleton.mp hb
  have hbefore : order.idxOf a < order.length := List.idxOf_lt_length_of_mem (hmem a ha)
  rw [List.idxOf_append_of_mem (hmem a ha), List.idxOf_append_of_notMem hnew]
  exact Nat.lt_of_lt_of_le hbefore (Nat.le_add_right _ _)

namespace Selection

/-! ## What an example names -/

/-- Merging keeps the first of each name in its place. -/
lemma inOrderOf_mergeByName (ss : List Selection) :
    InOrderOf (ss.map name) ((mergeByName ss).map name) := by
  induction ss using List.reverseRecOn with
  | nil => exact List.Pairwise.nil
  | append_singleton ss s ih =>
    have hmem : ∀ field ∈ (mergeByName ss).map name, field ∈ ss.map name :=
      fun field => mem_map_name_mergeByName.mp
    rw [mergeByName_concat, map_name_mergeInto, List.map_append, List.map_singleton]
    split
    · exact ih.append hmem
    · rename_i hnew
      exact ih.concat hmem fun h => hnew (mem_map_name_mergeByName.mpr h)

/-- The names that are selected for a type, as they were written: those of the fields directly
below, and then those of the fields in each fragment on the type. -/
def namesFor (s : Selection) (type : String) : List String :=
  s.fields.map name ++ (s.fragmentsOn type).flatMap fun f => f.fields.map name

lemma map_name_sources (s : Selection) (type : String) :
    (s.fields ++ (s.fragmentsOn type).flatMap fields).map name = s.namesFor type := by
  rw [List.map_append, List.map_flatMap, namesFor]

lemma inOrderOf_fieldsFor (s : Selection) (type : String) :
    InOrderOf (s.namesFor type) ((s.fieldsFor (some type)).map name) := by
  rw [← map_name_sources]
  exact inOrderOf_mergeByName _

lemma mem_namesFor {s : Selection} {type field : String} :
    field ∈ (s.fieldsFor (some type)).map name ↔ field ∈ s.namesFor type := by
  rw [← map_name_sources]
  exact mem_map_name_mergeByName

end Selection

namespace Config

variable {c : Config} {type : String} {fields allowed : List Field} {root : Bool}

/-! ## Allowed fields -/

/-- The configuration allows a field, among the fields of a type. -/
structure Allows (c : Config) (type : String) (fields : List Field) (root : Bool) (f : Field) :
    Prop where
  /-- It carries no skip directive. -/
  unskipped : ∀ directive ∈ c.skipDirectives, ¬ f.carries directive
  /-- It is not excluded, neither by its name alone nor with its type. -/
  notExcluded : f.name ∉ c.excludeFields ∧ type ++ "." ++ f.name ∉ c.excludeFields
  /-- Its own type is not excluded. -/
  typeNotExcluded : f.typeName ∉ c.excludeTypes
  /-- It is included, if this is not a root type and the include list speaks of the type. -/
  included : root = false → c.restricts type (c.unskipped fields) →
    f.name ∈ c.includeFields ∨ type ++ "." ++ f.name ∈ c.includeFields

instance (c : Config) (type : String) (fields : List Field) (root : Bool) (f : Field) :
    Decidable (c.Allows type fields root f) :=
  decidable_of_iff
    ((∀ directive ∈ c.skipDirectives, ¬ f.carries directive)
      ∧ (f.name ∉ c.excludeFields ∧ type ++ "." ++ f.name ∉ c.excludeFields)
      ∧ f.typeName ∉ c.excludeTypes
      ∧ (root = false → c.restricts type (c.unskipped fields) →
          f.name ∈ c.includeFields ∨ type ++ "." ++ f.name ∈ c.includeFields))
    ⟨fun ⟨hskip, hname, htype, hincluded⟩ => ⟨hskip, hname, htype, hincluded⟩,
      fun ⟨hskip, hname, htype, hincluded⟩ => ⟨hskip, hname, htype, hincluded⟩⟩

lemma namesField_iff {names : List String} {field : String} :
    namesField names type field ↔ field ∈ names ∨ type ++ "." ++ field ∈ names := by
  simp [namesField]

/-- The two filters in a row keep the allowed fields. -/
lemma allowedFields_eq_filter (c : Config) (type : String) (fields : List Field) (root : Bool) :
    c.allowedFields type fields root = fields.filter (c.Allows type fields root ·) := by
  have hunskipped : ∀ f : Field, (!c.skipDirectives.any f.carries) = true
      ↔ ∀ directive ∈ c.skipDirectives, ¬ f.carries directive := by
    simp
  have hexcluded : ∀ f : Field, (!namesField c.excludeFields type f.name) = true
      ↔ f.name ∉ c.excludeFields ∧ type ++ "." ++ f.name ∉ c.excludeFields := by
    intro f
    rw [Bool.not_eq_true', ← Bool.not_eq_true, namesField_iff, not_or]
  have hincluded : ∀ f : Field, (!(!root && c.restricts type (c.unskipped fields))
        || namesField c.includeFields type f.name) = true
      ↔ (root = false → c.restricts type (c.unskipped fields) →
          f.name ∈ c.includeFields ∨ type ++ "." ++ f.name ∈ c.includeFields) := by
    intro f
    rw [← namesField_iff]
    cases root <;> cases c.restricts type (c.unskipped fields) <;> simp
  rw [allowedFields, includedFields]
  nth_rewrite 2 [unskipped]
  rw [List.filter_filter]
  refine List.filter_congr fun f _ => Bool.eq_iff_iff.mpr ?_
  rw [Bool.and_eq_true, Bool.and_eq_true, Bool.and_eq_true, hincluded, hexcluded, hunskipped,
    Bool.not_eq_true', List.contains_eq_mem, decide_eq_false_iff_not, decide_eq_true_iff]
  constructor
  · rintro ⟨⟨⟨hname, hincl⟩, htype⟩, hskip⟩
    exact ⟨hskip, hname, htype, hincl⟩
  · rintro ⟨hskip, hname, htype, hincl⟩
    exact ⟨⟨⟨hname, hincl⟩, htype⟩, hskip⟩

lemma mem_allowedFields {f : Field} :
    f ∈ c.allowedFields type fields root ↔ f ∈ fields ∧ c.Allows type fields root f := by
  rw [allowedFields_eq_filter, List.mem_filter, decide_eq_true_iff]

lemma allowedFields_sublist : (c.allowedFields type fields root).Sublist fields :=
  List.filter_sublist.trans List.filter_sublist

/-! ## Fields by name -/

/-- With different names, the last field of a name is the one that has it. -/
lemma lastNamed?_eq_some_iff (hnames : (allowed.map (·.name)).Nodup) {field : String} {f : Field} :
    lastNamed? allowed field = some f ↔ f ∈ allowed ∧ f.name = field := by
  constructor
  · exact fun h =>
      ⟨List.mem_reverse.mp (List.mem_of_find?_eq_some h), name_of_lastNamed? h⟩
  · rintro ⟨hf, rfl⟩
    have hreverse : (allowed.reverse.map (·.name)).Nodup := by
      rw [List.map_reverse]
      exact List.nodup_reverse.mpr hnames
    exact find?_eq_some hreverse (List.mem_reverse.mpr hf)

/-- The fields that are found for some selections stand in the order of these. -/
lemma map_name_filterMap_sublist (allowed : List Field) (ss : List Selection) :
    ((ss.filterMap fun s => lastNamed? allowed s.name).map (·.name)).Sublist
      (ss.map Selection.name) := by
  induction ss with
  | nil => exact List.Sublist.slnil
  | cons s ss ih =>
    rw [List.filterMap_cons, List.map_cons]
    split
    · exact ih.cons _
    · rename_i f hf
      rw [List.map_cons, name_of_lastNamed? hf]
      exact ih.cons_cons _

/-! ## What an example chooses -/

variable {s : Selection}

lemma mem_fields_selectFields (hnames : (fields.map (·.name)).Nodup) {f : Field} :
    f ∈ (c.selectFields type fields (some s) root).fields
      ↔ f ∈ fields ∧ c.Allows type fields root f ∧ f.name ∈ s.namesFor type := by
  have hallowed : ((c.allowedFields type fields root).map (·.name)).Nodup :=
    hnames.sublist (allowedFields_sublist.map _)
  simp only [selectFields, selectedFields, List.mem_filterMap, lastNamed?_eq_some_iff hallowed,
    mem_allowedFields, ← Selection.mem_namesFor, List.mem_map]
  constructor
  · rintro ⟨t, ht, ⟨hf, hallows⟩, hname⟩
    exact ⟨hf, hallows, t, ht, hname.symm⟩
  · rintro ⟨hf, hallows, t, ht, hname⟩
    exact ⟨t, ht, ⟨hf, hallows⟩, hname.symm⟩

lemma mem_warnings_selectFields (hnames : (fields.map (·.name)).Nodup) {w : ExcludedSelection} :
    w ∈ (c.selectFields type fields (some s) root).warnings
      ↔ w.typeName = type ∧ w.fieldName ∈ s.namesFor type
        ∧ ∃ f ∈ fields, f.name = w.fieldName ∧ ¬ c.Allows type fields root f := by
  -- a declared name that no allowed field has is the name of one field, which is not allowed
  have hdeclared : ∀ field, field ∉ (c.allowedFields type fields root).map (·.name)
        ∧ field ∈ fields.map (·.name)
      ↔ ∃ f ∈ fields, f.name = field ∧ ¬ c.Allows type fields root f := by
    intro field
    constructor
    · rintro ⟨hnot, hmem⟩
      obtain ⟨f, hf, rfl⟩ := List.mem_map.mp hmem
      exact ⟨f, hf, rfl, fun hallows =>
        hnot (List.mem_map_of_mem (mem_allowedFields.mpr ⟨hf, hallows⟩))⟩
    · rintro ⟨f, hf, rfl, hnot⟩
      refine ⟨fun hmem => ?_, List.mem_map_of_mem hf⟩
      obtain ⟨g, hg, hname⟩ := List.mem_map.mp hmem
      obtain ⟨hg, hallows⟩ := mem_allowedFields.mp hg
      exact hnot (List.inj_on_of_nodup_map hnames hg hf hname ▸ hallows)
  have hnone : ∀ field, ((lastNamed? (c.allowedFields type fields root) field).isNone
        && (fieldNamed? fields field).isSome) = true
      ↔ ∃ f ∈ fields, f.name = field ∧ ¬ c.Allows type fields root f := by
    intro field
    rw [← hdeclared, Bool.and_eq_true, ← Option.not_isSome, Bool.not_eq_true', ← Bool.not_eq_true,
      isSome_lastNamed?, fieldNamed?, List.find?_isSome]
    simp only [decide_eq_true_eq, List.mem_map]
  simp only [selectFields, selectedFields, List.mem_map, List.mem_filter, hnone,
    ← Selection.mem_namesFor]
  constructor
  · rintro ⟨t, ⟨ht, hexcluded⟩, rfl⟩
    exact ⟨rfl, ⟨t, ht, rfl⟩, hexcluded⟩
  · rintro ⟨rfl, ⟨t, ht, hname⟩, hexcluded⟩
    exact ⟨t, ⟨ht, hname ▸ hexcluded⟩, by rw [hname]⟩

/-- Among fields with different names, those that the configuration allows are kept in their order.
With an example those of them are kept that it names, each once and in the order in which it names
them first; and in the same order there is one warning for each field that it names and the type
has, but the configuration does not allow, and no other warning. -/
theorem selectFields_exactly (c : Config) (type : String) (fields : List Field) (root : Bool)
    (hnames : (fields.map (·.name)).Nodup) :
    c.selectFields type fields none root = ⟨fields.filter (c.Allows type fields root ·), []⟩
      ∧ ∀ s : Selection,
          InOrderOf (s.namesFor type)
              ((c.selectFields type fields (some s) root).fields.map (·.name))
            ∧ (∀ f, f ∈ (c.selectFields type fields (some s) root).fields
                ↔ f ∈ fields ∧ c.Allows type fields root f ∧ f.name ∈ s.namesFor type)
            ∧ InOrderOf (s.namesFor type)
                ((c.selectFields type fields (some s) root).warnings.map (·.fieldName))
            ∧ ∀ w, w ∈ (c.selectFields type fields (some s) root).warnings
                ↔ w.typeName = type ∧ w.fieldName ∈ s.namesFor type
                  ∧ ∃ f ∈ fields, f.name = w.fieldName ∧ ¬ c.Allows type fields root f := by
  refine ⟨by rw [← allowedFields_eq_filter]; rfl, fun s =>
    ⟨?_, fun f => mem_fields_selectFields hnames, ?_, fun w => mem_warnings_selectFields hnames⟩⟩
  · exact (s.inOrderOf_fieldsFor type).sublist (map_name_filterMap_sublist _ _)
  · refine (s.inOrderOf_fieldsFor type).sublist ?_
    rw [selectFields, selectedFields, List.map_map]
    exact List.filter_sublist.map _

/-! ## An example for a type of films -/

/-- A type of films with a field of its own type and one that is not to be generated. -/
def filmFields : List Field :=
  [⟨"title", "String", false, true, none, [], []⟩, ⟨"year", "Int", false, true, none, [], []⟩,
    ⟨"notes", "String", false, true, none, [], [⟨"skipcodegen", []⟩]⟩,
    ⟨"sequel", "Film", false, true, none, [], []⟩, ⟨"genre", "Genre", false, true, none, [], []⟩]

/-- Excludes the year of a film. -/
def filmConfig : Config := { excludeFields := ["Film.year"] }

/-- Selects `year`, `sequel` and `notes`, and in a fragment on the type `title` and `sequel`. -/
def filmExample : Selection :=
  .mk "film" [.mk "year" [] [], .mk "sequel" [] [], .mk "notes" [] []]
    [.mk "Film" [.mk "title" [] [], .mk "sequel" [.mk "title" [] []] []] []]

/-- Of the fields that are named, `sequel` and `title` are kept; there are warnings for `year`,
which is excluded, and for `notes`, which carries a skip directive. -/
theorem selectFields_exactly_film :
    (filmFields.map (·.name)).Nodup
      ∧ (∀ f ∈ filmFields,
          f ∈ (filmConfig.selectFields "Film" filmFields (some filmExample) false).fields
            ↔ f.name = "sequel" ∨ f.name = "title")
      ∧ ∀ name, ⟨"Film", name⟩ ∈
            (filmConfig.selectFields "Film" filmFields (some filmExample) false).warnings
          ↔ name = "year" ∨ name = "notes" := by
  have hnames : (filmFields.map (·.name)).Nodup := by decide
  obtain ⟨_, hfields, _, hwarnings⟩ :=
    (selectFields_exactly filmConfig "Film" filmFields false hnames).2 filmExample
  refine ⟨hnames, fun f hf => ?_, fun name => ?_⟩
  · rw [hfields, and_iff_right hf]
    revert f
    decide +kernel
  · rw [hwarnings]
    constructor
    · rintro ⟨_, _, f, hf, rfl, hexcluded⟩
      revert f
      decide +kernel
    · rintro (rfl | rfl) <;> decide +kernel

end Config

end ClientGen
