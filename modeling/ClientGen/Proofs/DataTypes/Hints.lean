import ClientGen.Proofs.DataTypes.Covered

/-!
# What hints name

A hint is a text. The types of the schema that it names are those that it is written from: the type
itself, or the known members of a union, and none for a type that has one of the language's own.

* `TypeScope.hintedTypes` lists them, and `typeName_eq_unionHint` ties the list to the text.
* `IsClass.comesFrom` says which hints the fields of data types have.
-/

namespace ClientGen

open ClientGen.DataTypes

/-! ## Types that a hint names -/

namespace TypeScope

/-- The types of the schema that the hint for a type names. -/
def hintedTypes (s : TypeScope) (name : String) : List TypeDef :=
  if (Entries.get? name builtinTypes).isSome || s.scalars.has name then []
  else
    match s.schema.findType? name with
    | none => []
    | some t =>
      match t.kind with
      | .scalar => []
      | .union => s.schema.unionMembers name
      | _ => [t]

/-- Where Python has no type of its own, the hint is made of the names of these types. -/
theorem typeName_eq_unionHint {s : TypeScope} {name : String}
    (hbuiltin : Entries.get? name builtinTypes = none) (hscalar : s.scalars.get? name = none) :
    s.typeName name = unionHint ((s.hintedTypes name).map (·.name)) := by
  unfold typeName hintedTypes schemaType Scalars.has
  rw [hbuiltin, hscalar]
  cases hfind : s.schema.findType? name with
  | none => rfl
  | some t => cases hkind : t.kind <;> simp [hkind, unionHint]

/-- The hint for a type is that of a custom scalar: the type has a handler, and is none of those
that are built in. -/
structure UsesScalar (s : TypeScope) (name : String) (scalar : ScalarType) : Prop where
  notBuiltin : Entries.get? name builtinTypes = none
  handler : s.scalars.get? name = some scalar

/-- What stands in a hint for the type of a custom scalar. -/
lemma UsesScalar.typeName_eq {s : TypeScope} {name : String} {scalar : ScalarType}
    (h : s.UsesScalar name scalar) : s.typeName name = scalar.typeName := by
  unfold typeName
  rw [h.notBuiltin, h.handler]

lemma UsesScalar.mem_importsFor {s : TypeScope} {name statement : String} {scalar : ScalarType}
    (h : s.UsesScalar name scalar) (himport : scalar.importStatement? = some statement) :
    statement ∈ s.importsFor name := by
  unfold importsFor
  rw [h.notBuiltin, h.handler, Option.bind_some, himport]
  exact List.mem_singleton_self statement

/-- What a hint names refers to the data types. -/
lemma isDataType_of_mem_hintedTypes {s : TypeScope} {name : String} {u : TypeDef}
    (h : u ∈ s.hintedTypes name) : s.isDataType name = true := by
  unfold hintedTypes at h
  split at h
  · cases h
  · rename_i hown
    obtain ⟨hbuiltin, hscalar⟩ : Entries.get? name builtinTypes = none
        ∧ s.scalars.has name = false := by simpa using hown
    unfold isDataType
    rw [hbuiltin, hscalar]
    cases hfind : s.schema.findType? name with
    | none => rw [hfind] at h; cases h
    | some t =>
      rw [hfind] at h
      cases hkind : t.kind with
      | scalar => simp [hkind] at h
      | _ => simp [hkind]

lemma mem_hintedTypes_cases {s : TypeScope} {name : String} {u : TypeDef}
    (h : u ∈ s.hintedTypes name) :
    ∃ t, s.schema.findType? name = some t
      ∧ (u = t ∨ t.kind = .union ∧ u ∈ s.schema.unionMembers name) := by
  unfold hintedTypes at h
  split at h
  · cases h
  · cases hfind : s.schema.findType? name with
    | none => rw [hfind] at h; cases h
    | some t =>
      rw [hfind] at h
      refine ⟨t, rfl, ?_⟩
      cases hkind : t.kind with
      | scalar => simp [hkind] at h
      | union => simp only [hkind] at h; exact .inr ⟨rfl, h⟩
      | object | interface | enum | input => simp [hkind] at h; exact .inl h

end TypeScope

/-! ## Fields and parameters -/

lemma exists_of_forall₂ {α β : Type} {R : α → β → Prop} {as : List α} {bs : List β}
    (h : List.Forall₂ R as bs) {b : β} (hb : b ∈ bs) : ∃ a ∈ as, R a b := by
  induction h with
  | nil => cases hb
  | cons hab _ ih =>
    rcases List.mem_cons.mp hb with rfl | hb
    · exact ⟨_, List.mem_cons_self, hab⟩
    · obtain ⟨a, ha, hab⟩ := ih hb
      exact ⟨a, List.mem_cons_of_mem _ ha, hab⟩

/-- The name of a field in the schema. -/
def DataField.wireName (d : DataField) : String :=
  d.alias?.getD d.name

/-- A field of a data type stands for a field of the schema: it goes by its name, and its hint is
one for its type. -/
structure DataField.StandsFor (scope : TypeScope) (name typeName : String) (d : DataField) :
    Prop where
  wireName : d.wireName = name
  hint : ∃ isList isOptional, d.hint = scope.hint typeName isList isOptional

lemma standsFor_dataField (scope : TypeScope) (taken : List String) (name typeName : String)
    (isList required : Bool) (description? : Option String) :
    (dataField scope taken name typeName isList required description?).StandsFor scope name
      typeName := by
  refine ⟨?_, isList, !required, rfl⟩
  unfold DataField.wireName dataField
  by_cases h : Naming.modelFieldName taken name = name
  · simp [h]
  · simp [h]

lemma forall₂_modelFields (scope : TypeScope) (taken : List String) (fields : List Field) :
    List.Forall₂ (fun f d => DataField.StandsFor scope f.name f.typeName d) fields
      (modelFields scope taken fields) := by
  induction fields generalizing taken with
  | nil => exact .nil
  | cons f fs ih => exact .cons (standsFor_dataField scope taken _ _ _ _ _) (ih _)

lemma forall₂_inputFields (scope : TypeScope) (taken : List String) (fields : List InputValue) :
    List.Forall₂ (fun a d => DataField.StandsFor scope a.name a.typeName d) fields
      (inputFields scope taken fields) := by
  induction fields generalizing taken with
  | nil => exact .nil
  | cons a more ih => exact .cons (standsFor_dataField scope taken _ _ _ _ _) (ih _)

/-- The fields of a model go by the names of the fields that it is made from. -/
lemma map_wireName_modelFields (scope : TypeScope) (taken : List String) (fields : List Field) :
    (modelFields scope taken fields).map (·.wireName) = fields.map (·.name) := by
  induction fields generalizing taken with
  | nil => rfl
  | cons f fs ih =>
    exact congrArg₂ List.cons (standsFor_dataField scope taken _ _ _ _ _).wireName (ih _)

/-- So do the fields of an input. -/
lemma map_wireName_inputFields (scope : TypeScope) (taken : List String)
    (fields : List InputValue) :
    (inputFields scope taken fields).map (·.wireName) = fields.map (·.name) := by
  induction fields generalizing taken with
  | nil => rfl
  | cons a more ih =>
    exact congrArg₂ List.cons (standsFor_dataField scope taken _ _ _ _ _).wireName (ih _)

/-! ## Fields of a data class -/

/-- A field that the class of a type may have, with the type of the field. -/
inductive HasField (ctx : Context) (t : TypeDef) : String → String → Prop where
  | output {f : Field} (hkind : t.kind = .object ∨ t.kind = .interface)
      (hf : f ∈ ctx.schema.fieldsOf t.name) : HasField ctx t f.name f.typeName
  | input {a : InputValue} (hkind : t.kind = .input) (ha : a ∈ t.inputFields) :
      HasField ctx t a.name a.typeName

/-- A field of a class comes from a field of the type: its hint is one for the type of the field,
the imports of the hint are there, and where the hint refers to the data types, so does the
class. -/
structure ComesFrom (ctx : Context) (t : TypeDef) (selection? : Option Selection) (d : DataClass)
    (field : DataField) (typeName : String) : Prop where
  declared : HasField ctx t field.wireName typeName
  hint : ∃ isList isOptional, field.hint = ctx.scope.hint typeName isList isOptional
  imports : ctx.scope.importsFor typeName ⊆ d.imports
  refers : ctx.scope.isDataType typeName = true →
    ∃ w ∈ references ctx t selection?, w.typeName = typeName

namespace DataTypes

variable {ctx : Context} {package : String} {t : TypeDef} {selection? : Option Selection}
  {d : DataClass} {field : DataField}

/-- The class of an object or interface type is a model with the fields that are chosen. -/
lemma IsClass.model (h : IsClass ctx package t selection? d)
    (hkind : t.kind = .object ∨ t.kind = .interface) :
    d.body = .model (modelFields ctx.scope [Naming.typenameField]
        (ctx.choice t.name selection?).fields)
      ∧ d.imports = Text.sortedSet ((ctx.choice t.name selection?).fields.flatMap
          fun f => ctx.scope.importsFor f.typeName) := by
  have hdescribed := h.described
  unfold describe at hdescribed
  rcases hkind with hkind | hkind
  · rw [hkind] at hdescribed
    obtain rfl := (List.cons.inj hdescribed).1
    exact ⟨rfl, rfl⟩
  · rw [hkind] at hdescribed
    obtain rfl := (List.cons.inj hdescribed).1
    exact ⟨rfl, rfl⟩

lemma IsClass.input (h : IsClass ctx package t selection? d) (hkind : t.kind = .input) :
    d.body = .input (inputFields ctx.scope [] t.inputFields)
      ∧ d.imports = Text.sortedSet (ctx.argumentImports t.inputFields) := by
  have hdescribed := h.described
  unfold describe at hdescribed
  rw [hkind] at hdescribed
  obtain rfl := (List.cons.inj hdescribed).1
  exact ⟨rfl, rfl⟩

lemma IsClass.enum (h : IsClass ctx package t selection? d) (hkind : t.kind = .enum) :
    d.body = .enum (t.values.map (·.name)) := by
  have hdescribed := h.described
  unfold describe at hdescribed
  rw [hkind] at hdescribed
  obtain rfl := (List.cons.inj hdescribed).1
  rfl

lemma IsClass.comesFrom_model (h : IsClass ctx package t selection? d)
    (hkind : t.kind = .object ∨ t.kind = .interface) (hfield : field ∈ d.body.fields) :
    ∃ typeName, ComesFrom ctx t selection? d field typeName := by
  obtain ⟨hbody, himports⟩ := h.model hkind
  rw [hbody] at hfield
  obtain ⟨f, hf, hstands⟩ := exists_of_forall₂ (forall₂_modelFields _ _ _) hfield
  refine ⟨f.typeName, ?_, hstands.hint, fun i hi => ?_, fun hdata => ?_⟩
  · rw [hstands.wireName]
    exact .output hkind (Config.mem_of_mem_selectFields hf)
  · rw [himports]
    exact Text.mem_sortedSet.mpr (List.mem_flatMap.mpr ⟨f, hf, hi⟩)
  · exact ⟨_, mem_references_of_field hkind hf hdata, rfl⟩

lemma IsClass.comesFrom_input (h : IsClass ctx package t selection? d) (hkind : t.kind = .input)
    (hfield : field ∈ d.body.fields) : ∃ typeName, ComesFrom ctx t selection? d field typeName := by
  obtain ⟨hbody, himports⟩ := h.input hkind
  rw [hbody] at hfield
  obtain ⟨a, ha, hstands⟩ := exists_of_forall₂ (forall₂_inputFields _ _ _) hfield
  refine ⟨a.typeName, ?_, hstands.hint, fun i hi => ?_, fun hdata => ?_⟩
  · rw [hstands.wireName]
    exact .input hkind ha
  · rw [himports]
    exact Text.mem_sortedSet.mpr (List.mem_flatMap.mpr ⟨a, ha, hi⟩)
  · exact ⟨_, mem_references_of_inputField hkind ha hdata selection?, rfl⟩

/-- Every field of a class comes from a field of its type. -/
theorem IsClass.comesFrom (h : IsClass ctx package t selection? d)
    (hfield : field ∈ d.body.fields) : ∃ typeName, ComesFrom ctx t selection? d field typeName := by
  have hclass := (isClass_of_mem (h.described ▸ List.mem_singleton.mpr rfl)).1
  cases hkind : t.kind with
  | object => exact h.comesFrom_model (.inl hkind) hfield
  | interface => exact h.comesFrom_model (.inr hkind) hfield
  | input => exact h.comesFrom_input hkind hfield
  | enum =>
    rw [h.enum hkind] at hfield
    cases hfield
  | union | scalar =>
    rw [hkind] at hclass
    cases hclass

end DataTypes

end ClientGen
