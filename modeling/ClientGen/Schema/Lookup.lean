import ClientGen.Entries
import ClientGen.Schema.Basic

/-!
# Finding things in a schema

Types by name, the fields of a type together with those of its extensions, the concrete types
behind an interface or a union, and the kind of operation that has a given root.
-/

namespace ClientGen

open ClientGen.Document (OperationKind)

/-- Carries a directive of the given name. -/
def hasDirective (directives : List AppliedDirective) (name : String) : Bool :=
  directives.any (·.name = name)

namespace Field

/-- Carries a directive of the given name. -/
def carries (f : Field) (directive : String) : Bool :=
  hasDirective f.directives directive

end Field

namespace TypeDef

/-- Carries a directive of the given name. -/
def carries (t : TypeDef) (directive : String) : Bool :=
  hasDirective t.directives directive

end TypeDef

namespace Schema

/-! ## Types -/

/-- The scalars that every schema has without declaring them. -/
def builtinScalars : List String :=
  ["String", "Int", "Float", "Boolean", "ID"]

/-- The type of a name. -/
def findType? (s : Schema) (name : String) : Option TypeDef :=
  s.types.find? (·.name = name)

/-- The object, interface or union type of a name. -/
def findSelectable? (s : Schema) (name : String) : Option TypeDef :=
  (s.findType? name).filter (·.kind.isSelectable)

/-- The type of a name that has to exist. -/
def requireType (s : Schema) (name : String) : Except SchemaError TypeDef :=
  match s.findType? name with
  | some t => .ok t
  | none => .error (.unknownType name)

/-- A built-in scalar or a declared type. -/
def isKnownType (s : Schema) (name : String) : Bool :=
  builtinScalars.contains name || (s.findType? name).isSome

/-- The types of a kind. -/
def typesOfKind (s : Schema) (kind : TypeKind) : List TypeDef :=
  s.types.filter (·.kind = kind)

theorem findType?_mem {s : Schema} {name : String} {t : TypeDef}
    (h : s.findType? name = some t) : t ∈ s.types :=
  List.mem_of_find?_eq_some h

theorem findType?_name {s : Schema} {name : String} {t : TypeDef}
    (h : s.findType? name = some t) : t.name = name := by
  simpa using List.find?_some h

theorem findSelectable?_eq_some {s : Schema} {name : String} {t : TypeDef}
    (h : s.findSelectable? name = some t) : s.findType? name = some t :=
  (Option.filter_eq_some_iff.mp h).1

/-! ## Fields -/

/-- The first field of each name, in order; `seen` lists the names that are taken. -/
private def firstOfEach (seen : List String) : List Field → List Field
  | [] => []
  | f :: fs =>
    if seen.contains f.name then firstOfEach seen fs
    else f :: firstOfEach (f.name :: seen) fs

/-- The fields of a type, its own before those of its extensions. -/
def fieldsOf (s : Schema) (name : String) : List Field :=
  let own := ((s.findType? name).map (·.fields)).getD []
  firstOfEach [] (own ++ (Entries.get? name s.extensions).getD [])

private theorem nodup_firstOfEach (seen : List String) (fields : List Field) :
    ((firstOfEach seen fields).map (·.name)).Nodup
      ∧ ∀ f ∈ firstOfEach seen fields, f.name ∉ seen := by
  induction fields generalizing seen with
  | nil => exact ⟨List.nodup_nil, fun f h => by cases h⟩
  | cons f fs ih =>
    rw [firstOfEach]
    split
    · exact ih seen
    · rename_i hnew
      obtain ⟨hnodup, hseen⟩ := ih (f.name :: seen)
      constructor
      · refine List.nodup_cons.mpr ⟨fun hmem => ?_, hnodup⟩
        obtain ⟨g, hg, hname⟩ := List.mem_map.mp hmem
        exact hseen g hg (hname ▸ List.mem_cons_self)
      · intro g hg
        rcases List.mem_cons.mp hg with rfl | hg
        · simpa using hnew
        · exact fun h => hseen g hg (List.mem_cons_of_mem _ h)

private theorem mem_of_mem_firstOfEach {seen : List String} {fields : List Field} {f : Field}
    (h : f ∈ firstOfEach seen fields) : f ∈ fields := by
  induction fields generalizing seen with
  | nil => exact h
  | cons g fs ih =>
    rw [firstOfEach] at h
    split at h
    · exact List.mem_cons_of_mem _ (ih h)
    · rcases List.mem_cons.mp h with rfl | h
      · exact List.mem_cons_self
      · exact List.mem_cons_of_mem _ (ih h)

/-- A field of a type is declared by the type or by an extension. -/
theorem declared_of_mem_fieldsOf {s : Schema} {name : String} {f : Field}
    (h : f ∈ s.fieldsOf name) :
    (∃ t ∈ s.types, f ∈ t.fields) ∨ ∃ e ∈ s.extensions, f ∈ e.2 := by
  rcases List.mem_append.mp (mem_of_mem_firstOfEach h) with h | h
  · left
    cases hfind : s.findType? name with
    | none => rw [hfind] at h; cases h
    | some t => rw [hfind] at h; exact ⟨t, findType?_mem hfind, h⟩
  · right
    cases hfind : Entries.get? name s.extensions with
    | none => rw [hfind] at h; cases h
    | some fields =>
      rw [hfind] at h
      exact ⟨(name, fields), Entries.mem_of_get?_eq_some hfind, h⟩

/-- The fields of a type have different names. -/
theorem nodup_fieldsOf (s : Schema) (name : String) :
    ((s.fieldsOf name).map (·.name)).Nodup :=
  (nodup_firstOfEach [] _).1

/-! ## Concrete types -/

/-- The object types that implement an interface, in order of declaration. -/
def implementations (s : Schema) (interface : String) : List TypeDef :=
  s.types.filter fun t => t.kind = .object && t.interfaces.contains interface

/-- The declared types among the members of a type. -/
def unionMembers (s : Schema) (union : String) : List TypeDef :=
  match s.findType? union with
  | none => []
  | some t => t.members.filterMap s.findType?

theorem findType?_of_mem_unionMembers {s : Schema} {union : String} {u : TypeDef}
    (h : u ∈ s.unionMembers union) : s.findType? u.name = some u := by
  rw [unionMembers] at h
  split at h
  · cases h
  · obtain ⟨name, _, hname⟩ := List.mem_filterMap.mp h
    rw [findType?_name hname]
    exact hname

/-- The types that a selection at a type may be narrowed to. -/
def concreteTypes (s : Schema) (t : TypeDef) : List TypeDef :=
  match t.kind with
  | .interface => s.implementations t.name
  | .union => s.unionMembers t.name
  | _ => []

theorem mem_types_of_mem_concreteTypes {s : Schema} {t c : TypeDef}
    (h : c ∈ s.concreteTypes t) : c ∈ s.types := by
  rw [concreteTypes] at h
  split at h
  · exact (List.mem_filter.mp h).1
  · rw [unionMembers] at h
    split at h
    · cases h
    · obtain ⟨name, _, hname⟩ := List.mem_filterMap.mp h
      exact findType?_mem hname
  · cases h

/-! ## Roots -/

/-- The first kind of operation that has the type as its root. -/
def operationKindOf? (s : Schema) (root : String) : Option OperationKind :=
  (s.roots.toList.find? (·.2 = root)).map (·.1)

end Schema

end ClientGen
