import ClientGen.Config
import ClientGen.Example.Selection
import ClientGen.Schema.Lookup

/-!
# Which fields are generated

Three rules, in this order: a field with a skip directive is dropped; the include and exclude
lists of the configuration decide about the others; and where an example selects at a
position, only what it selects is kept, in the order of the selection. A field that the
example selects but the configuration excludes is worth a warning.
-/

namespace ClientGen

open ClientGen.Document (OperationKind)

/-! ## Warnings -/

/-- An example selects a field that the configuration excludes. -/
structure ExcludedSelection where
  typeName : String
  fieldName : String
deriving Repr, DecidableEq

/-- The wording of the warning. -/
def ExcludedSelection.message (w : ExcludedSelection) : String :=
  s!"Example operation selects {w.typeName}.{w.fieldName} but the configuration excludes it; "
    ++ "the field is not generated"

/-- The fields that are kept, and what was noticed on the way. -/
structure FieldChoice where
  fields : List Field
  warnings : List ExcludedSelection
deriving Repr

namespace Config

/-! ## Lists of fields -/

/-- A list names a field, alone or with its type. -/
def namesField (names : List String) (type field : String) : Bool :=
  names.contains field || names.contains (type ++ "." ++ field)

/-- The type that a qualified name begins with. -/
def qualifier? (name : String) : Option String :=
  (Text.cutFirst? '.' name.toList).map fun (type, _) => String.ofList type

/-- Without the fields that carry a skip directive. -/
def unskipped (c : Config) (fields : List Field) : List Field :=
  fields.filter fun f => !c.skipDirectives.any f.carries

/-- The include list speaks of this type: it names the type, or one of its fields. -/
def restricts (c : Config) (type : String) (fields : List Field) : Bool :=
  c.includeFields.any (fun name => qualifier? name = some type)
    || fields.any (fun f => c.includeFields.contains f.name)

/-- The fields that the include and exclude lists let through. The fields of a root type are
not held to the include list. -/
def includedFields (c : Config) (type : String) (fields : List Field) (root : Bool) :
    List Field :=
  let restricted := !root && c.restricts type fields
  fields.filter fun f =>
    !namesField c.excludeFields type f.name
      && (!restricted || namesField c.includeFields type f.name)
      && !c.excludeTypes.contains f.typeName

/-- The fields that the configuration allows. -/
def allowedFields (c : Config) (type : String) (fields : List Field) (root : Bool) :
    List Field :=
  c.includedFields type (c.unskipped fields) root

/-! ## Selected fields -/

/-- One of the fields, by name. -/
def fieldNamed? (fields : List Field) (name : String) : Option Field :=
  fields.find? (·.name = name)

/-- The last of the fields of a name. -/
def lastNamed? (fields : List Field) (name : String) : Option Field :=
  fieldNamed? fields.reverse name

/-- What an example selects among the fields of a type, in its order. -/
def selectedFields (type : String) (fields allowed : List Field) (selection : Selection) :
    FieldChoice :=
  let selected := selection.fieldsFor (some type)
  { fields := selected.filterMap fun s => lastNamed? allowed s.name
    warnings := (selected.filter fun s =>
        (lastNamed? allowed s.name).isNone && (fieldNamed? fields s.name).isSome).map
      fun s => ⟨type, s.name⟩ }

/-- The fields of a type that are generated at a position, in order. -/
def selectFields (c : Config) (type : String) (fields : List Field)
    (selection? : Option Selection) (root : Bool) : FieldChoice :=
  let allowed := c.allowedFields type fields root
  match selection? with
  | none => ⟨allowed, []⟩
  | some selection => selectedFields type fields allowed selection

theorem mem_of_mem_allowedFields {c : Config} {type : String} {fields : List Field} {root : Bool}
    {f : Field} (h : f ∈ c.allowedFields type fields root) : f ∈ fields :=
  (List.mem_filter.mp (List.mem_filter.mp h).1).1

theorem mem_of_mem_selectFields {c : Config} {type : String} {fields : List Field}
    {selection? : Option Selection} {root : Bool} {f : Field}
    (h : f ∈ (c.selectFields type fields selection? root).fields) : f ∈ fields := by
  unfold selectFields at h
  cases selection? with
  | none => exact mem_of_mem_allowedFields h
  | some selection =>
    obtain ⟨s, _, hs⟩ := List.mem_filterMap.mp h
    exact mem_of_mem_allowedFields (List.mem_reverse.mp (List.mem_of_find?_eq_some hs))

/-- A field of an excluded type is not generated. -/
theorem typeName_of_mem_allowedFields {c : Config} {type : String} {fields : List Field}
    {root : Bool} {f : Field} (h : f ∈ c.allowedFields type fields root) :
    f.typeName ∉ c.excludeTypes := by
  have hkept := (Bool.and_eq_true_iff.mp (List.mem_filter.mp h).2).2
  simpa using hkept

theorem typeName_of_mem_selectFields {c : Config} {type : String} {fields : List Field}
    {selection? : Option Selection} {root : Bool} {f : Field}
    (h : f ∈ (c.selectFields type fields selection? root).fields) :
    f.typeName ∉ c.excludeTypes := by
  unfold selectFields at h
  cases selection? with
  | none => exact typeName_of_mem_allowedFields h
  | some selection =>
    obtain ⟨s, _, hs⟩ := List.mem_filterMap.mp h
    exact typeName_of_mem_allowedFields (List.mem_reverse.mp (List.mem_of_find?_eq_some hs))

/-! ## Root fields and concrete types -/

/-- The root fields that are asked for. -/
def filterOperations (c : Config) (kind : OperationKind) (fields : List Field) : List Field :=
  match c.includedOperations kind with
  | [] => fields
  | names => fields.filter fun f => names.contains f.name

/-- The concrete types that get fragments at a position: those that are not excluded, and of
these, in the order of the example, only those on which it has fragments. -/
def selectConcreteTypes (c : Config) (candidates : List TypeDef)
    (selection? : Option Selection) : List TypeDef :=
  let allowed := candidates.filter fun t => !c.excludeTypes.contains t.name
  match selection? with
  | none => allowed
  | some selection =>
    selection.fragmentTypes.filterMap fun name => allowed.reverse.find? (·.name = name)

/-- A concrete type is selected among those that are not excluded. -/
theorem mem_filter_of_mem_selectConcreteTypes {c : Config} {candidates : List TypeDef}
    {selection? : Option Selection} {t : TypeDef}
    (h : t ∈ c.selectConcreteTypes candidates selection?) :
    t ∈ candidates.filter fun t => !c.excludeTypes.contains t.name := by
  unfold selectConcreteTypes at h
  split at h
  · exact h
  · obtain ⟨name, _, hname⟩ := List.mem_filterMap.mp h
    exact List.mem_reverse.mp (List.mem_of_find?_eq_some hname)

theorem mem_of_mem_selectConcreteTypes {c : Config} {candidates : List TypeDef}
    {selection? : Option Selection} {t : TypeDef}
    (h : t ∈ c.selectConcreteTypes candidates selection?) : t ∈ candidates :=
  (List.mem_filter.mp (mem_filter_of_mem_selectConcreteTypes h)).1

theorem name_of_mem_selectConcreteTypes {c : Config} {candidates : List TypeDef}
    {selection? : Option Selection} {t : TypeDef}
    (h : t ∈ c.selectConcreteTypes candidates selection?) : t.name ∉ c.excludeTypes := by
  simpa using (List.mem_filter.mp (mem_filter_of_mem_selectConcreteTypes h)).2

end Config

end ClientGen
