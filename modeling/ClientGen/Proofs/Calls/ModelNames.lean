import ClientGen.Proofs.Calls.Attributes
import ClientGen.Proofs.DataTypes.Requests
import ClientGen.Proofs.Emission.MethodNames
import ClientGen.Proofs.Generation.Asked
import ClientGen.Proofs.Render.HintNames
import ClientGen.Proofs.Render.Modules

/-!
# The names that modules of data types rely on

A module of data types relies on names that it imports and on some that are built in: for the bases
of its classes, for the declarations of its fields and for their hints. Its classes go by the names
of their types, whatever these are.

So a name that the module relies on keeps its meaning exactly if no class takes it, which is as long
as no type of that name is among the types of the module. Then all that a hint names is what the
hint is there for.

* `ModelsNamed` says what the names of a module of data types are.
* `names_of_models` proves it for the modules that come out of any calls, and of whole runs.
-/

namespace ClientGen

open ClientGen.DataTypes ClientGen.Render
open ClientGen.Document.Token (isName)

variable {ctx : Context} {classes : List DataClass} {b : String × Meaning} {o : Output}

/-! ## Names that are relied on -/

/-- The built-in types of hints. -/
def builtinNames : List (String × Meaning) :=
  ["str", "int", "float", "bool"].map fun name => (name, .builtin)

/-- The names that a module of data types relies on, each with what it is there for. -/
def reliedOn (classes : List DataClass) : List (String × Meaning) :=
  fixedNames ++ scalarNames classes ++ builtinNames

/-- The imports of a module of data types bind the name to this only, and it is no class. -/
structure Clear (classes : List DataClass) (b : String × Meaning) : Prop where
  notClass : b.2 ≠ .dataType
  only : ∀ b' ∈ fixedNames ++ scalarNames classes, b'.1 = b.1 → b'.2 = b.2

lemma Clear.stays_iff (h : Clear classes b) (hnames : ∀ d ∈ classes, isName d.name = true)
    (hbound : (∃ b' ∈ fixedNames ++ scalarNames classes, b'.1 = b.1) ∨ b.2 = .builtin) :
    Stays classes b.1 b.2 ↔ ∀ d ∈ classes, d.name ≠ b.1 :=
  Render.stays_iff hnames (meaning_modelsOpening hbound h.only) h.notClass

lemma stays_iff_of_relied (hnames : ∀ d ∈ classes, isName d.name = true) (hb : b ∈ reliedOn classes)
    (h : Clear classes b) : Stays classes b.1 b.2 ↔ ∀ d ∈ classes, d.name ≠ b.1 := by
  refine h.stays_iff hnames ?_
  rcases List.mem_append.mp hb with hb | hb
  · exact .inl ⟨b, hb, rfl⟩
  · obtain ⟨_, -, rfl⟩ := List.mem_map.mp hb
    exact .inr rfl

/-! ## Fields -/

/-- The hint of a field: it is one for the type of the field; its names are there for what they are
there for; and each keeps this meaning exactly if no class of the module goes by it. -/
structure FieldMeans (ctx : Context) (classes : List DataClass) (t : TypeDef) (field : DataField)
    (typeName : String) (isList isOptional : Bool) : Prop where
  declared : HasField ctx t field.wireName typeName
  hint : field.hint = ctx.scope.hint typeName isList isOptional
  names : hintNames field.hint = (ctx.scope.meant typeName isList isOptional).map (·.1)
  kept : ∀ b ∈ ctx.scope.meant typeName isList isOptional, Clear classes b →
    (Stays classes b.1 b.2 ↔ ∀ e ∈ classes, e.name ≠ b.1)

lemma exists_fieldMeans (hschema : ∀ t ∈ ctx.schema.types, isName t.name = true)
    (hnames : ∀ d ∈ classes, isName d.name = true) {t : TypeDef} {selection? : Option Selection}
    {d : DataClass} (hd : d ∈ classes) {field : DataField} {typeName : String}
    (h : ComesFrom ctx t selection? d field typeName) :
    ∃ isList isOptional, FieldMeans ctx classes t field typeName isList isOptional := by
  obtain ⟨isList, isOptional, hhint⟩ := h.hint
  refine ⟨isList, isOptional, h.declared, hhint, ?_, fun b hb hclear => ?_⟩
  · rw [hhint]
    exact TypeScope.hintNames_hint hschema typeName isList isOptional
  · refine hclear.stays_iff hnames ?_
    rcases TypeScope.origin_of_mem_meant hb with hbuiltin | hclass | hfixed | ⟨b', hb', hname⟩
    · exact .inr hbuiltin
    · exact absurd hclass hclear.notClass
    · exact .inl ⟨b, List.mem_append_left _ hfixed, rfl⟩
    · obtain ⟨statement, hstatement, hb'⟩ := List.mem_flatMap.mp hb'
      have himport : statement ∈ Text.sortedSet (classes.flatMap (·.imports)) :=
        Text.mem_sortedSet.mpr (List.mem_flatMap.mpr ⟨d, hd, h.imports hstatement⟩)
      have hscalar : b' ∈ scalarNames classes := List.mem_flatMap.mpr ⟨statement, himport, hb'⟩
      exact .inl ⟨b', List.mem_append_right _ hscalar, hname⟩

/-! ## Modules -/

/-- The names of a module of data types. It binds what all such modules import, what the imports of
its scalars bind, and its classes. These are named as types of the schema that have classes, and a
name stands for its class in the end; of the names that the module relies on each keeps its meaning
exactly if no class goes by it; and so do the names in hints. -/
structure ModelsNamed (ctx : Context) (classes : List DataClass) : Prop where
  rendered : ∀ typesPackage?,
    (ModuleContent.models classes).text typesPackage? = textOfLines (modelsLines classes)
  bound : (modelsLines classes).flatMap bindings
    = fixedNames ++ scalarNames classes ++ (arranged classes).map fun d => (d.name, .dataType)
  types : ∀ d ∈ classes, ∃ t, ctx.schema.findType? d.name = some t ∧ t.kind.hasClass = true
  taken : ∀ d ∈ classes, meaning (modelsLines classes) d.name = .dataType
  kept : ∀ b ∈ reliedOn classes, Clear classes b →
    (Stays classes b.1 b.2 ↔ ∀ d ∈ classes, d.name ≠ b.1)
  hints : ∀ d ∈ classes, ∀ field ∈ d.body.fields, ∃ t typeName isList isOptional,
    ctx.schema.findType? d.name = some t
      ∧ FieldMeans ctx classes t field typeName isList isOptional

/-- What holds of the classes of each module of data types of an output. -/
def Output.ForModels (o : Output) (P : PackageModule → List DataClass → Prop) : Prop :=
  ∀ m ∈ modulesOf o, ∀ classes, m.content = .models classes → P m classes

/-- The classes of a module of data types are those of its package. -/
lemma eq_of_mem_modulesOf {m : PackageModule} (hm : m ∈ modulesOf o)
    (hclasses : m.content = .models classes) :
    classes = o.dataTypes.filter (·.package = m.package) := by
  have hunits := (units_of_mem_modulesOf hm).1
  have hname : m.name = "models" := by
    unfold PackageModule.name
    rw [hclasses]
  rw [hclasses, hname, unitsIn_models] at hunits
  exact List.map_injective_iff.mpr (fun _ _ h => GeneratedClass.dataType.inj h) hunits

lemma mem_iff_of_mem_modulesOf {m : PackageModule} (hm : m ∈ modulesOf o)
    (hclasses : m.content = .models classes) {d : DataClass} :
    d ∈ classes ↔ d ∈ o.dataTypes ∧ d.package = m.package := by
  rw [eq_of_mem_modulesOf hm hclasses, List.mem_filter, decide_eq_true_iff]

/-! ## All modules -/

lemma isName_of_findType? (hschema : ∀ t ∈ ctx.schema.types, isName t.name = true) {name : String}
    {t : TypeDef} (h : ctx.schema.findType? name = some t) : isName name = true :=
  Schema.findType?_name h ▸ hschema t (Schema.findType?_mem h)

lemma modelsNamed_of_requested (hschema : ∀ t ∈ ctx.schema.types, isName t.name = true)
    (h : o.Requested ctx fun _ _ => True) :
    o.ForModels fun _ classes => ModelsNamed ctx classes := by
  intro m hm classes hclasses
  have hmade : ∀ d ∈ classes, d.Requested ctx fun _ _ => True := fun d hd =>
    h.dataTypes d ((mem_iff_of_mem_modulesOf hm hclasses).mp hd).1
  have hnames : ∀ d ∈ classes, isName d.name = true := by
    intro d hd
    obtain ⟨_, _, hfound, -⟩ := hmade d hd
    exact isName_of_findType? hschema hfound
  refine ⟨fun typesPackage? => text_models typesPackage? classes, bindings_modelsLines hnames,
    fun d hd => ?_, fun d hd => meaning_of_class hnames hd,
    fun b hb hclear => stays_iff_of_relied hnames hb hclear, fun d hd field hfield => ?_⟩
  · obtain ⟨t, _, hfound, hclass, -⟩ := hmade d hd
    exact ⟨t, hfound, (isClass_of_mem (hclass.described ▸ List.mem_singleton.mpr rfl)).1⟩
  · obtain ⟨t, _, hfound, hclass, -⟩ := hmade d hd
    obtain ⟨typeName, hfrom⟩ := hclass.comesFrom hfield
    obtain ⟨isList, isOptional, hmeans⟩ := exists_fieldMeans hschema hnames hd hfrom
    exact ⟨t, typeName, isList, isOptional, hfound, hmeans⟩

/-- Where a type is settled does not depend on what is selected of it. -/
lemma Settled.of_eq {package : String} {r : Naming.Registry} {w v : Wanted}
    (h : Settled ctx package r w) (hname : w.typeName = v.typeName) : Settled ctx package r v := by
  unfold Settled at h ⊢
  rwa [hname] at h

/-- Each hint of a module finds its classes: what it names of the schema and has a class stands for
one in the end. -/
def HintsFound (ctx : Context) (classes : List DataClass) : Prop :=
  ∀ d ∈ classes, ∀ field ∈ d.body.fields, ∃ t typeName isList isOptional,
    ctx.schema.findType? d.name = some t
      ∧ FieldMeans ctx classes t field typeName isList isOptional
      ∧ ∀ u ∈ ctx.scope.hintedTypes typeName, u.kind.hasClass = true →
        meaning (modelsLines classes) u.name = .dataType

lemma hintsFound_of_complete {h : History} {demand : String → Wanted → Prop}
    (hschema : ∀ t ∈ ctx.schema.types, isName t.name = true) (hh : h.Complete ctx demand) :
    h.total.ForModels fun m classes =>
      m.package ≠ ctx.config.clientNamespace → HintsFound ctx classes := by
  intro m hm classes hclasses hclient
  have hmem : ∀ {d}, d ∈ classes ↔ d ∈ h.total.dataTypes ∧ d.package = m.package :=
    mem_iff_of_mem_modulesOf hm hclasses
  have hnames : ∀ d ∈ classes, isName d.name = true := by
    intro d hd
    obtain ⟨_, _, hfound, -⟩ := hh.covered.dataTypes d (hmem.mp hd).1
    exact isName_of_findType? hschema hfound
  intro d hd field hfield
  obtain ⟨hdata, hpackage⟩ := hmem.mp hd
  obtain ⟨t, _, hfound, hclass, -, hsettled⟩ := hh.covered.dataTypes d hdata
  obtain ⟨typeName, hfrom⟩ := hclass.comesFrom hfield
  obtain ⟨isList, isOptional, hmeans⟩ := exists_fieldMeans hschema hnames hd hfrom
  have hwanted : ctx.scope.isDataType typeName = true →
      Settled ctx d.package h.state.registry ⟨typeName, none⟩ := by
    intro hrefers
    obtain ⟨w, hw, hname⟩ := hfrom.refers hrefers
    exact Settled.of_eq (hsettled w hw) hname
  refine ⟨t, typeName, isList, isOptional, hfound, hmeans, fun u hu hhas => ?_⟩
  obtain ⟨e, he, hbeside, hname⟩ := hh.exists_hinted (hpackage ▸ hclient) hwanted hu hhas
  exact hname ▸ meaning_of_class hnames (hmem.mpr ⟨he, hbeside.trans hpackage⟩)

/-- Each data type is in the module of its package. -/
lemma exists_models {d : DataClass} (hd : d ∈ o.dataTypes) :
    ∃ m ∈ modulesOf o, ∃ classes, m.content = .models classes ∧ d ∈ classes := by
  have hpackage : d.package ∈ distinct (o.dataTypes.map (·.package)) :=
    mem_distinct.mpr (List.mem_map_of_mem hd)
  refine ⟨⟨d.package, .models (o.dataTypes.filter (·.package = d.package))⟩, ?_, _, rfl, ?_⟩
  · exact List.mem_append_right _ (List.mem_map.mpr ⟨d.package, hpackage, rfl⟩)
  · exact List.mem_filter.mpr ⟨hd, decide_eq_true rfl⟩

/-- A type with a class has one if it is asked for. -/
lemma exists_emitted (hdata : ctx.config.dataTypes = true) {t : TypeDef}
    (ht : ctx.schema.findType? t.name = some t) (hclass : t.kind.hasClass = true) :
    ∃ d ∈ (History.after ctx [.dataType t none none]).total.dataTypes, d.name = t.name := by
  obtain ⟨visits, htrace, -⟩ := exists_trace_afterRequests hdata none [.type t]
  have hreaches : Reaches ctx [.type t] t := .requested List.mem_cons_self ht
  have hmem := (mem_classTypes_iff htrace).mpr ⟨hreaches, hclass⟩
  have hclasses : List.Forall₂ (fun u => IsClass ctx (Call.packageOf ctx none) u none)
      (classTypes visits) (afterRequests ctx none [.type t]).total.dataTypes := by
    rw [htrace.dataTypes]
    exact forall₂_isClass visits fun v hv => (reaches_of_asked (htrace.asked v hv)).1
  obtain ⟨d, hd, hisClass⟩ := exists_of_forall₂ hclasses.flip hmem
  exact ⟨d, hd, hisClass.sameName⟩

lemma Schema.MembersNamed.dotless {s : Schema} (h : s.MembersNamed) : s.Dotless := by
  have hdot : ∀ name : String, isName name = true → ClientGen.Dotless name := fun _ hname hmem =>
    absurd (Naming.isNamePart_of_mem_name hname '.' hmem) (by decide)
  exact ⟨fun t ht => ⟨hdot _ (h.1 t ht).1, fun f hf => hdot _ ((h.1 t ht).2 f hf).1⟩,
    fun e he f hf => hdot _ (h.2 e he f hf).1⟩

/-- In every module of data types that comes out of any calls, or of a whole run, the classes are
named as types of the schema. A name that the module relies on keeps its meaning exactly if no class
goes by it, from the imports to the end, and so does every name in a hint; a name that a class goes
by stands for the class. As any type with a class may be asked for, a name is never taken exactly if
no such type has it. If the calls come back, the types that a hint names are there. -/
theorem names_of_models (hnames : ctx.schema.MembersNamed) :
    (∀ calls, (History.after ctx calls).total.ForModels fun _ classes => ModelsNamed ctx classes)
      ∧ (∀ o, generate ctx = .ok o → o.ForModels fun _ classes => ModelsNamed ctx classes)
      ∧ (ctx.config.dataTypes = true → ∀ name,
        ((∀ calls, (History.after ctx calls).total.ForModels fun _ classes =>
            ∀ d ∈ classes, d.name ≠ name)
          ↔ ∀ t, ctx.schema.findType? name = some t → t.kind.hasClass = false))
      ∧ (ctx.config.dataTypes = true → ∀ calls : List Call, (∀ c ∈ calls, c.Dotless) →
        .endlessFragments ∉ (History.after ctx calls).failures →
        (History.after ctx calls).total.ForModels fun m classes =>
          m.package ≠ ctx.config.clientNamespace → HintsFound ctx classes)
      ∧ (ctx.config.dataTypes = true → ∀ o, generate ctx = .ok o → o.ForModels fun m classes =>
          m.package ≠ ctx.config.clientNamespace → HintsFound ctx classes) := by
  have hschema : ∀ t ∈ ctx.schema.types, isName t.name = true := fun t ht => (hnames.1 t ht).1
  have hcalls : ∀ calls, (History.after ctx calls).total.ForModels fun _ classes =>
      ModelsNamed ctx classes := fun calls => modelsNamed_of_requested hschema
    (History.requested_after (fun _ _ _ _ _ _ _ => trivial) calls fun c _ => c.admitted_true)
  have hfound : ctx.config.dataTypes = true → ∀ calls : List Call, (∀ c ∈ calls, c.Dotless) →
      .endlessFragments ∉ (History.after ctx calls).failures →
      (History.after ctx calls).total.ForModels fun m classes =>
        m.package ≠ ctx.config.clientNamespace → HintsFound ctx classes :=
    fun hdata calls hdotless hreturned => hintsFound_of_complete hschema
      (History.complete_after hdata hnames.dotless calls hdotless hreturned)
  refine ⟨hcalls, fun o h => ?_, fun hdata name => ⟨fun hfree t ht => ?_, fun hnone calls => ?_⟩,
    hfound, fun hdata o h => ?_⟩
  · obtain ⟨st', hafter⟩ := after_of_generate h
    have hall := hcalls (generationCalls ctx)
    rw [hafter] at hall
    exact hall
  · by_contra hclass
    obtain rfl := Schema.findType?_name ht
    obtain ⟨d, hd, hsame⟩ := exists_emitted hdata ht (by simpa using hclass)
    obtain ⟨m, hm, classes, hclasses, hmem⟩ := exists_models hd
    exact hfree _ m hm classes hclasses d hmem hsame
  · rintro m hm classes hclasses d hd rfl
    obtain ⟨t, ht, hclass⟩ := (hcalls calls m hm classes hclasses).types d hd
    rw [hnone t ht] at hclass
    cases hclass
  · obtain ⟨st', hafter⟩ := after_of_generate h
    have hall := hfound hdata (generationCalls ctx)
      fun c hc => Call.dotless_of_generationCalls hnames.dotless hc
    rw [hafter] at hall
    exact hall List.not_mem_nil

/-! ## Examples -/

/-- A type that refers to no other makes a module with one class. -/
lemma exists_module_of_leaf {t : TypeDef} (hdata : ctx.config.dataTypes = true)
    (ht : ctx.schema.findType? t.name = some t) (hclass : t.kind.hasClass = true)
    (hleaf : (describe ctx ctx.config.typesNamespace t none).references = []) :
    ∃ d, IsClass ctx ctx.config.typesNamespace t none d
      ∧ ∃ m ∈ modulesOf (History.after ctx [.dataType t none none]).total,
        m.content = .models [d] := by
  obtain ⟨d, hd, htypes⟩ := exists_class_of_leaf ctx hdata ht hclass hleaf
  obtain ⟨m, hm, classes, hclasses, hmem⟩ := exists_models (htypes ▸ List.mem_singleton_self d)
  have hone : classes = [d] := by
    have hfilter := eq_of_mem_modulesOf hm hclasses
    rw [hfilter, List.mem_filter] at hmem
    rw [hfilter, htypes]
    exact List.filter_eq_self.mpr fun e he => List.mem_singleton.mp he ▸ hmem.2
  exact ⟨d, hd, m, hm, hone ▸ hclasses⟩

/-- A type with a custom scalar among its fields. -/
def premiere : TypeDef where
  name := "Premiere"
  kind := .object
  fields := [plainField "date" "DateTime", plainField "place" "String",
    { plainField "guests" "String" with isList := true }]

/-- Four of the names that the module of this type relies on; no class takes them. -/
theorem names_of_models_premiere :
    (alone premiere).schema.MembersNamed
      ∧ ∃ m ∈ modulesOf (History.after (alone premiere) [.dataType premiere none none]).total,
        ∃ d, m.content = .models [d] ∧ d.name = "Premiere"
          ∧ ∀ b ∈ [("Optional", Meaning.path "typing.Optional"), ("List", .path "typing.List"),
              ("datetime", .path "datetime.datetime"), ("str", .builtin)], Stays [d] b.1 b.2 := by
  have hnames : (alone premiere).schema.MembersNamed := by decide
  have hdata : (alone premiere).config.dataTypes = true := rfl
  obtain ⟨d, hclass, m, hm, hclasses⟩ := exists_module_of_leaf (t := premiere) hdata rfl rfl rfl
  have hscalar : scalarNames [d] = [("datetime", .path "datetime.datetime")] := by
    unfold scalarNames
    rw [List.flatMap_singleton, (hclass.model (.inl rfl)).2]
    decide +kernel
  have hkept := ((names_of_models hnames).1 _ m hm [d] hclasses).kept
  refine ⟨hnames, m, hm, d, hclasses, hclass.sameName, fun b hb => ?_⟩
  refine (hkept b ?_ ⟨?_, ?_⟩).mpr fun e he => ?_
  · unfold reliedOn
    rw [hscalar]
    revert b
    decide
  · revert b
    decide
  · rw [hscalar]
    revert b
    decide
  · rw [List.mem_singleton.mp he, hclass.sameName]
    revert b
    decide

/-- The type `type List { items: [String] }`. -/
def listType : TypeDef where
  name := "List"
  kind := .object
  fields := [{ plainField "items" "String" with isList := true }]

/-- The name of the type is taken over for its class. So the name in the hint of the field, which is
there for lists, stands for the class. -/
theorem listType_takes_name :
    (alone listType).schema.MembersNamed
      ∧ ∃ m ∈ modulesOf (History.after (alone listType) [.dataType listType none none]).total,
        ∃ d, m.content = .models [d]
          ∧ (d.name, Meaning.path "typing.List") ∈ reliedOn [d]
          ∧ (∃ field ∈ d.body.fields, field.hint = "Optional[List[str]]")
          ∧ meaning (modelsLines [d]) d.name = .dataType := by
  have hdata : (alone listType).config.dataTypes = true := rfl
  obtain ⟨d, hclass, m, hm, hclasses⟩ := exists_module_of_leaf (t := listType) hdata rfl rfl rfl
  have hname : d.name = "List" := hclass.sameName
  refine ⟨by decide, m, hm, d, hclasses, ?_, ?_, meaning_of_class ?_ List.mem_cons_self⟩
  · rw [hname]
    exact List.mem_append_left _ (List.mem_append_left _ (by decide))
  · rw [(hclass.model (.inl rfl)).1]
    exact ⟨_, List.mem_singleton.mpr rfl, by decide +kernel⟩
  · intro e he
    rw [List.mem_singleton.mp he, hname]
    decide

end ClientGen
