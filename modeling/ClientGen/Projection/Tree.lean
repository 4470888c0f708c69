import ClientGen.Context
import ClientGen.Projection.Position

/-!
# Projection trees

The walk over the types of a schema, before any class has a name. At each position it keeps
the fields that the filter chooses; below a field with sub-fields it goes on, unless the depth
is used up or the edge to the field's type has been passed before; and it narrows interfaces
and unions to their concrete types.

With a selection, every step leads to a lower selection. Without one, a field passes a new
edge and a fragment meets a type that is new since the last field; a union that comes back to
itself through its members is where the walk has no end, and the tree says so.

Main definition: `Body.grow`.
-/

namespace ClientGen.Projection

/-- A position that has been looked at. -/
structure Head where
  type : TypeDef
  selection? : Option Selection
  warnings : List ExcludedSelection

/-- What stands below a position: first the fields, each with or without something below it,
then the fragments. -/
inductive Body where
  | done
  | leaf (field : Field) (rest : Body)
  | branch (field : Field) (target : Head) (below rest : Body)
  | fragment (target : Head) (below rest : Body)
  /-- The fragments never end. -/
  | endless

/-! ## What bounds the walk -/

/-- The height of a selection, and zero for none. -/
def heightOf : Option Selection → Nat
  | none => 0
  | some s => s.height

/-- All edges of a schema. -/
def allEdges (s : Schema) : List (String × String) :=
  s.types.flatMap fun t => s.types.map fun u => (t.name, u.name)

/-- The edges of a schema that have not been passed. -/
def freeEdges (s : Schema) (edges : List (String × String)) : Nat :=
  ((allEdges s).filter (· ∉ edges)).length

/-- The types of a schema that are not on a trail. -/
def freeTypes (s : Schema) (trail : List String) : Nat :=
  (s.types.filter (·.name ∉ trail)).length

theorem heightOf_childSelection? (selection? : Option Selection) (type field : String) :
    heightOf (Context.childSelection? selection? type field) < heightOf selection?
      ∨ selection? = none := by
  cases selection? with
  | none => exact .inr rfl
  | some s =>
    left
    rw [Context.childSelection?, Option.bind_some]
    cases h : s.child? field (some type) with
    | none => rw [heightOf, heightOf, Selection.height_eq]; omega
    | some c => exact Selection.height_child?_lt h

theorem heightOf_fragmentSelection? (selection? : Option Selection) (type : String) :
    heightOf (Context.fragmentSelection? selection? type) < heightOf selection?
      ∨ selection? = none := by
  cases selection? with
  | none => exact .inr rfl
  | some s =>
    left
    rw [Context.fragmentSelection?, Option.bind_some]
    cases h : s.fragment? type with
    | none => rw [heightOf, heightOf, Selection.height_eq]; omega
    | some c => exact Selection.height_fragment?_lt h

theorem freeEdges_lt {s : Schema} {edges : List (String × String)} {t u : TypeDef}
    (ht : t ∈ s.types) (hu : u ∈ s.types) (h : (t.name, u.name) ∉ edges) :
    freeEdges s (edges.insert (t.name, u.name)) < freeEdges s edges := by
  have hcut : (allEdges s).filter (· ∉ edges.insert (t.name, u.name))
      = ((allEdges s).filter (· ∉ edges)).filter (· ≠ (t.name, u.name)) := by
    rw [List.filter_filter]
    refine List.filter_congr fun e _ => ?_
    simp [List.mem_insert_iff, not_or]
  rw [freeEdges, freeEdges, hcut]
  refine List.length_filter_lt_length_iff_exists.mpr ⟨(t.name, u.name), ?_, by simp⟩
  refine List.mem_filter.mpr ⟨?_, by simpa using h⟩
  exact List.mem_flatMap.mpr ⟨t, ht, List.mem_map.mpr ⟨u, hu, rfl⟩⟩

theorem freeTypes_lt {s : Schema} {trail : List String} {t : TypeDef}
    (ht : t ∈ s.types) (h : t.name ∉ trail) :
    freeTypes s (t.name :: trail) < freeTypes s trail := by
  have hcut : s.types.filter (·.name ∉ t.name :: trail)
      = (s.types.filter (·.name ∉ trail)).filter (·.name ≠ t.name) := by
    rw [List.filter_filter]
    refine List.filter_congr fun u _ => ?_
    simp [not_or]
  rw [freeTypes, freeTypes, hcut]
  refine List.length_filter_lt_length_iff_exists.mpr ⟨t, ?_, by simp⟩
  exact List.mem_filter.mpr ⟨ht, by simpa using h⟩

/-! ## What is found at a position -/

/-- The fields that are generated at a position. -/
def fieldsAt (ctx : Context) (p : Position) : List Field :=
  match ctx.schema.findType? p.typeName with
  | none => []
  | some t => (ctx.choice t.name p.selection?).fields

/-- The concrete types that get fragments at a position. -/
def narrowingsAt (ctx : Context) (p : Position) : List TypeDef :=
  match ctx.schema.findType? p.typeName with
  | none => []
  | some t => ctx.config.selectConcreteTypes (ctx.schema.concreteTypes t) p.selection?

theorem mem_types_of_mem_narrowingsAt {ctx : Context} {p : Position} {c : TypeDef}
    (h : c ∈ narrowingsAt ctx p) : c ∈ ctx.schema.types := by
  rw [narrowingsAt] at h
  split at h
  · cases h
  · exact Schema.mem_types_of_mem_concreteTypes (Config.mem_of_mem_selectConcreteTypes h)

theorem exists_type_of_mem_fieldsAt {ctx : Context} {p : Position} {f : Field}
    (h : f ∈ fieldsAt ctx p) : ∃ t ∈ ctx.schema.types, t.name = p.typeName := by
  rw [fieldsAt] at h
  split at h
  · cases h
  · rename_i t ht
    exact ⟨t, Schema.findType?_mem ht, Schema.findType?_name ht⟩

/-- What is found when the walk arrives at a type. -/
def headAt (ctx : Context) (t : TypeDef) (selection? : Option Selection) : Head :=
  ⟨t, selection?, (ctx.choice t.name selection?).warnings⟩

/-- The walk may go on to the type of a field: the depth is not used up and the edge has not
been passed. -/
def mayPass (ctx : Context) (p : Position) (target : TypeDef) : Bool :=
  ctx.config.mayDescend p.depth && (target.name, p.typeName) ∉ p.edges

/-- The position below a field of a type. -/
def Position.below (p : Position) (f : Field) (target : TypeDef) : Position :=
  p.descend target.name (Context.childSelection? p.selection? p.typeName f.name)

/-- The position in the fragment on a type. -/
def Position.inside (p : Position) (c : TypeDef) : Position :=
  p.narrow c.name (Context.fragmentSelection? p.selection? c.name)

/-- The trail in the fragment on a type. With a selection there is nothing to remember: it has
become lower. -/
def trailInside (p : Position) (trail : List String) (c : TypeDef) : List String :=
  match p.selection? with
  | none => c.name :: trail
  | some _ => [c.name]

/-! ## Growing a tree -/

/-- The tree below a position. `trail` lists the types narrowed through since the last field or
selection, the one at hand included. -/
def Body.grow (ctx : Context) (p : Position) (trail : List String) : Body :=
  let fragments := (narrowingsAt ctx p).attach.foldr (fun c rest =>
    if _back : p.selection? = none ∧ c.val.name ∈ trail then .endless
    else
      let q := p.inside c.val
      .fragment (headAt ctx c.val q.selection?) (grow ctx q (trailInside p trail c.val)) rest) .done
  (fieldsAt ctx p).attach.foldr (fun f rest =>
    match _found : ctx.schema.findSelectable? f.val.typeName with
    | none => .leaf f.val rest
    | some target =>
      if _open : mayPass ctx p target then
        let q := p.below f.val target
        .branch f.val (headAt ctx target q.selection?) (grow ctx q [target.name]) rest
      else rest) fragments
termination_by (heightOf p.selection?, freeEdges ctx.schema p.edges, freeTypes ctx.schema trail)
decreasing_by
  · rcases heightOf_fragmentSelection? p.selection? c.val.name with h | h
    · exact Prod.Lex.left _ _ h
    · have hnew : c.val.name ∉ trail := fun hc => _back ⟨h, hc⟩
      have hfree := freeTypes_lt (mem_types_of_mem_narrowingsAt c.property) hnew
      simp only [Position.inside, Position.narrow, trailInside, h, Context.fragmentSelection?,
        Option.bind_none]
      exact Prod.Lex.right _ (Prod.Lex.right _ hfree)
  · rcases heightOf_childSelection? p.selection? p.typeName f.val.name with h | h
    · exact Prod.Lex.left _ _ h
    · have hopen : (target.name, p.typeName) ∉ p.edges := by
        simpa using (Bool.and_eq_true_iff.mp _open).2
      obtain ⟨t, ht, hname⟩ := exists_type_of_mem_fieldsAt f.property
      have htarget := Schema.findType?_mem (Schema.findSelectable?_eq_some _found)
      have hfree := freeEdges_lt htarget ht (hname ▸ hopen)
      rw [hname] at hfree
      simp only [Position.below, Position.descend, h, Context.childSelection?, Option.bind_none]
      exact Prod.Lex.right _ (Prod.Lex.left _ _ hfree)

end ClientGen.Projection
