import ClientGen.Proofs.Calls.Hints
import ClientGen.Proofs.Calls.Requested
import ClientGen.Proofs.Generation.Plain
import ClientGen.Proofs.Naming.Attributes

/-!
# The attributes of data types

Each field of a data type stands for a field of the schema, goes by its name, and has an attribute
of its own. Whatever is asked for, the attributes of one class are different identifiers that begin
with a letter and hide nothing that a model has anyway.

One thing is missed. A name that is a keyword behind underscores loses the underscores after
keywords have been looked for, so its attribute is the keyword.

* `IsClass.attributes` says which attributes the class of a type has.
* `attributes_of_dataTypes` is about all data types that come out of any calls.
-/

namespace ClientGen

open ClientGen.DataTypes ClientGen.Naming
open ClientGen.Document.Token (isName)

variable {ctx : Context}

/-! ## One class -/

/-- The attribute that a body keeps for itself. -/
def DataBody.kept : DataBody → List String
  | model _ => [typenameField]
  | _ => []

/-- The names of the fields that the class of a type stands for, in order. -/
def classFieldNames (ctx : Context) (t : TypeDef) (selection? : Option Selection) : List String :=
  match t.kind with
  | .object | .interface => (ctx.choice t.name selection?).fields.map (·.name)
  | .input => t.inputFields.map (·.name)
  | _ => []

lemma map_name_modelFields (scope : TypeScope) (taken : List String) (fields : List Field) :
    (modelFields scope taken fields).map (·.name)
      = attributeNames taken (fields.map (·.name)) := by
  induction fields generalizing taken with
  | nil => rfl
  | cons f fs ih => exact congrArg (List.cons _) (ih _)

lemma map_name_inputFields (scope : TypeScope) (taken : List String) (fields : List InputValue) :
    (inputFields scope taken fields).map (·.name)
      = attributeNames taken (fields.map (·.name)) := by
  induction fields generalizing taken with
  | nil => rfl
  | cons a more ih => exact congrArg (List.cons _) (ih _)

/-- The fields of a class stand for those of its type, under attributes that are given out one after
the other. -/
theorem DataTypes.IsClass.attributes {package : String} {t : TypeDef}
    {selection? : Option Selection} {d : DataClass} (h : IsClass ctx package t selection? d) :
    d.body.fields.map (·.wireName) = classFieldNames ctx t selection?
      ∧ d.body.fields.map (·.name)
        = attributeNames d.body.kept (classFieldNames ctx t selection?) := by
  have hclass := (isClass_of_mem (h.described ▸ List.mem_singleton.mpr rfl)).1
  unfold classFieldNames
  cases hkind : t.kind with
  | object =>
    rw [(h.model (.inl hkind)).1]
    exact ⟨map_wireName_modelFields _ _ _, map_name_modelFields _ _ _⟩
  | interface =>
    rw [(h.model (.inr hkind)).1]
    exact ⟨map_wireName_modelFields _ _ _, map_name_modelFields _ _ _⟩
  | input =>
    rw [(h.input hkind).1]
    exact ⟨map_wireName_inputFields _ _ _, map_name_inputFields _ _ _⟩
  | enum =>
    rw [h.enum hkind]
    exact ⟨rfl, rfl⟩
  | union | scalar =>
    rw [hkind] at hclass
    cases hclass

/-! ## Names of the grammar -/

/-- The names of the fields of a schema are names of the grammar. -/
def Schema.FieldsNamed (s : Schema) : Prop :=
  (∀ t ∈ s.types, (∀ f ∈ t.fields, isName f.name = true)
      ∧ ∀ a ∈ t.inputFields, isName a.name = true)
    ∧ ∀ e ∈ s.extensions, ∀ f ∈ e.2, isName f.name = true

instance (s : Schema) : Decidable s.FieldsNamed :=
  inferInstanceAs (Decidable (_ ∧ ∀ e ∈ s.extensions, ∀ f ∈ e.2, isName f.name = true))

lemma Schema.FieldsNamed.classFieldNames (h : ctx.schema.FieldsNamed) {t : TypeDef}
    (ht : t ∈ ctx.schema.types) (selection? : Option Selection) :
    ∀ name ∈ classFieldNames ctx t selection?, isName name = true := by
  have hfields : ∀ f ∈ ctx.schema.fieldsOf t.name, isName f.name = true := by
    intro f hf
    rcases Schema.declared_of_mem_fieldsOf hf with ⟨u, hu, hf⟩ | ⟨e, he, hf⟩
    · exact (h.1 u hu).1 f hf
    · exact h.2 e he f hf
  intro name hname
  unfold ClientGen.classFieldNames at hname
  split at hname
  · obtain ⟨f, hf, rfl⟩ := List.mem_map.mp hname
    exact hfields f (Config.mem_of_mem_selectFields hf)
  · obtain ⟨f, hf, rfl⟩ := List.mem_map.mp hname
    exact hfields f (Config.mem_of_mem_selectFields hf)
  · obtain ⟨a, ha, rfl⟩ := List.mem_map.mp hname
    exact (h.1 t ht).2 a ha
  · cases hname

/-! ## All classes -/

/-- Every data type that comes out of any calls has fields that go by the names of the fields of its
type, in order. Their attributes are different, each is an identifier that begins with a letter and
hides nothing that a model has anyway, nor the name of the type that a model of an output type
carries. A keyword is among the attributes exactly if one of the names is that keyword behind
underscores. -/
theorem attributes_of_dataTypes (hnames : ctx.schema.FieldsNamed) (calls : List Call) :
    ∀ d ∈ (History.after ctx calls).total.dataTypes,
      (∃ t selection?, ctx.schema.findType? d.name = some t
          ∧ d.body.fields.map (·.wireName) = classFieldNames ctx t selection?)
        ∧ (d.body.fields.map (·.name)).Nodup
        ∧ (∀ field ∈ d.body.fields, IsAttribute field.name
          ∧ ∀ fields, d.body = .model fields → field.name ≠ typenameField)
        ∧ ∀ keyword ∈ keywords, (∃ field ∈ d.body.fields, field.name = keyword)
          ↔ ∃ field ∈ d.body.fields, HidesKeyword keyword field.wireName := by
  intro d hd
  obtain ⟨t, selection?, hfound, hclass⟩ := History.exists_isClass calls hd
  obtain ⟨hwire, hattributes⟩ := hclass.attributes
  have hnamed := hnames.classFieldNames (Schema.findType?_mem hfound) selection?
  refine ⟨⟨t, selection?, hfound, hwire⟩, ?_, fun field hfield => ⟨?_, ?_⟩,
    fun keyword hkeyword => ?_⟩
  · rw [hattributes]
    exact nodup_attributeNames _ _
  · have hmem : field.name ∈ d.body.fields.map (·.name) := List.mem_map_of_mem hfield
    rw [hattributes] at hmem
    exact isAttribute_of_mem hnamed hmem
  · intro fields hbody
    have hmem : field.name ∈ d.body.fields.map (·.name) := List.mem_map_of_mem hfield
    rw [hattributes, hbody] at hmem
    exact fun hsame => not_mem_taken hmem (hsame ▸ List.mem_singleton.mpr rfl)
  · have hfree : keyword ∉ d.body.kept := by
      have hapart : ∀ w ∈ keywords, w ≠ typenameField := by decide
      cases d.body with
      | model fields => simpa [DataBody.kept] using hapart keyword hkeyword
      | _ => exact List.not_mem_nil
    have hiff : keyword ∈ attributeNames d.body.kept (classFieldNames ctx t selection?)
        ↔ ∃ name ∈ classFieldNames ctx t selection?, HidesKeyword keyword name :=
      keyword_mem_attributeNames hkeyword hfree
    rw [← hattributes, ← hwire, List.mem_map] at hiff
    rw [hiff]
    simp only [List.mem_map, exists_exists_and_eq_and]

/-! ## One type alone -/

/-- What comes out if one type is asked for, which refers to no other. -/
lemma dataTypes_of_leaf {t : TypeDef} (hdata : ctx.config.dataTypes = true)
    (ht : ctx.schema.findType? t.name = some t) (hkind : t.kind ≠ .scalar)
    (hleaf : (describe ctx ctx.config.typesNamespace t none).references = []) :
    (History.after ctx [.dataType t none none]).total.dataTypes
      = (describe ctx ctx.config.typesNamespace t none).output.dataTypes := by
  have hrun : (Call.dataType t none none).run ctx {} = _ :=
    run_of_free (w := ⟨t.name, none⟩) hdata ht hkind List.not_mem_nil hleaf
  show (History.step ctx {} (.dataType t none none)).total.dataTypes = _
  unfold History.step
  rw [show (Call.dataType t none none).run ctx ({} : History).state = _ from hrun]
  exact List.append_nil _

/-- If a type that refers to no other is asked for, its class comes out, and nothing else. -/
lemma exists_class_of_leaf (ctx : Context) {t : TypeDef} (hdata : ctx.config.dataTypes = true)
    (ht : ctx.schema.findType? t.name = some t) (hclass : t.kind.hasClass = true)
    (hleaf : (describe ctx ctx.config.typesNamespace t none).references = []) :
    ∃ d, IsClass ctx ctx.config.typesNamespace t none d
      ∧ (History.after ctx [.dataType t none none]).total.dataTypes = [d] := by
  obtain ⟨d, hd⟩ := exists_isClass ctx ctx.config.typesNamespace hclass none
  have hscalar : t.kind ≠ .scalar := fun hscalar => by
    rw [hscalar] at hclass
    cases hclass
  exact ⟨d, hd, by rw [dataTypes_of_leaf hdata ht hscalar hleaf, hd.described]⟩

/-- The setting of a schema with one type. -/
def alone (t : TypeDef) : Context where
  schema := { types := [t] }

/-- A type with fields whose names need care. -/
def record : TypeDef where
  name := "Record"
  kind := .object
  fields := [plainField "_id" "ID", plainField "json" "String", plainField "typename" "String",
    plainField "class" "String", plainField "_1st" "Int", plainField "releaseYear" "Int",
    plainField "release_year" "Int"]

/-- None of the names is a keyword behind underscores, so no attribute of the model is a keyword. -/
theorem attributes_of_dataTypes_record :
    (alone record).schema.FieldsNamed
      ∧ ∃ d ∈ (History.after (alone record) [.dataType record none none]).total.dataTypes,
        d.body.fields.map (·.name) = ["id", "json_", "typename_", "class_", "field_1st",
          "release_year", "release_year_"]
        ∧ ∀ keyword ∈ keywords, ¬ ∃ field ∈ d.body.fields, field.name = keyword := by
  have hnames : (alone record).schema.FieldsNamed := by decide
  obtain ⟨d, hclass⟩ := exists_isClass (alone record) "generated.types" (t := record) rfl none
  have hd : d ∈ (History.after (alone record) [.dataType record none none]).total.dataTypes := by
    rw [dataTypes_of_leaf rfl rfl (by decide) rfl]
    exact hclass.described ▸ List.mem_singleton.mpr rfl
  obtain ⟨hwire, hattributes⟩ := hclass.attributes
  have hkept : d.body.kept = [typenameField] := by
    rw [(hclass.model (.inl rfl)).1]
    rfl
  have hplain : ∀ keyword ∈ keywords, ∀ name ∈ classFieldNames (alone record) record none,
      ¬ HidesKeyword keyword name := by decide +kernel
  refine ⟨hnames, d, hd, ?_, fun keyword hkeyword hsome => ?_⟩
  · rw [hattributes, hkept]
    decide +kernel
  · have hiff := (attributes_of_dataTypes hnames _ d hd).2.2.2 keyword hkeyword
    obtain ⟨field, hfield, hhides⟩ := hiff.mp hsome
    exact hplain keyword hkeyword _ (hwire ▸ List.mem_map_of_mem hfield) hhides

/-- A type with the field `_class`. -/
def classified : TypeDef where
  name := "Film"
  kind := .object
  fields := [plainField "_class" "String"]

/-- The names are names of the grammar and all different; still the attribute for the field is a
keyword. -/
theorem classified_has_keyword :
    (alone classified).schema.FieldsNamed ∧ (classified.fields.map (·.name)).Nodup
      ∧ ∃ d ∈ (History.after (alone classified) [.dataType classified none none]).total.dataTypes,
        ∃ field ∈ d.body.fields, field.wireName = "_class" ∧ field.name ∈ keywords := by
  obtain ⟨d, hclass⟩ := exists_isClass (alone classified) "generated.types" (t := classified) rfl
    none
  refine ⟨by decide, by decide, d, ?_, ?_⟩
  · rw [dataTypes_of_leaf rfl rfl (by decide) rfl]
    exact hclass.described ▸ List.mem_singleton.mpr rfl
  · rw [(hclass.model (.inl rfl)).1]
    exact ⟨_, List.mem_singleton.mpr rfl, rfl, by decide +kernel⟩

end ClientGen
