import ClientGen.Projection.Tree
import Mathlib.Tactic.Lemma

/-!
# The spine of a tree

The tree below a position lists what the class at the position offers: a method for each field,
and then one for each fragment. This file reads the list back.

* `Body.grow_eq` is the recursion of `Body.grow` without the proofs that make it end.
* `Body.follows_grow` says what each entry stands for, and that a branch holds the tree below
  the position to which it leads.
* `Body.entries_grow` gives the entries of a tree that is whole, in order, from the fields and
  fragments at the position alone.
-/

namespace ClientGen.Projection

/-! ## Where the walk goes on -/

/-- A field leads on to a type: it is chosen, it has something to be selected, and the edge to
its type may be passed. -/
structure LeadsOn (ctx : Context) (p : Position) (f : Field) (target : TypeDef) : Prop where
  chosen : f ∈ fieldsAt ctx p
  found : ctx.schema.findSelectable? f.typeName = some target
  passes : mayPass ctx p target = true

/-- While the class at one position is made, the class at the other is made as a part of it. -/
inductive Nested (ctx : Context) (p : Position) : Position → Prop where
  | descend {f : Field} {target : TypeDef} (h : LeadsOn ctx p f target) :
      Nested ctx p (p.below f target)
  | narrow {c : TypeDef} (h : c ∈ narrowingsAt ctx p) : Nested ctx p (p.inside c)

namespace Body

/-! ## One level of the tree -/

/-- The spine with a field in front. A field that may not be passed leaves nothing behind. -/
def addField (ctx : Context) (p : Position) (f : Field) (rest : Body) : Body :=
  match ctx.schema.findSelectable? f.typeName with
  | none => .leaf f rest
  | some target =>
    if mayPass ctx p target then
      .branch f (headAt ctx target (p.below f target).selection?)
        (grow ctx (p.below f target) [target.name]) rest
    else rest

/-- The spine with a fragment in front, which replaces it if the fragment leads back. -/
def addFragment (ctx : Context) (p : Position) (trail : List String) (c : TypeDef)
    (rest : Body) : Body :=
  if p.selection? = none ∧ c.name ∈ trail then .endless
  else
    .fragment (headAt ctx c (p.inside c).selection?)
      (grow ctx (p.inside c) (trailInside p trail c)) rest

theorem grow_eq (ctx : Context) (p : Position) (trail : List String) :
    grow ctx p trail
      = (fieldsAt ctx p).foldr (addField ctx p)
          ((narrowingsAt ctx p).foldr (addFragment ctx p trail) .done) := by
  rw [grow]
  have hfragments : (narrowingsAt ctx p).attach.foldr (fun c rest =>
        if p.selection? = none ∧ c.val.name ∈ trail then Body.endless
        else .fragment (headAt ctx c.val (p.inside c.val).selection?)
          (grow ctx (p.inside c.val) (trailInside p trail c.val)) rest) .done
      = (narrowingsAt ctx p).foldr (addFragment ctx p trail) .done := by
    rw [← List.foldr_attach (l := narrowingsAt ctx p)]
    rfl
  rw [← List.foldr_attach (l := fieldsAt ctx p), ← hfragments]
  congr 1
  funext f rest
  rw [addField]
  split <;> rename_i h <;> simp only [h]
  rfl

/-! ## What the entries stand for -/

/-- The spine consists of entries for a position, and each of its trees is grown at the position
to which its entry leads. -/
def Follows (ctx : Context) (p : Position) (trail : List String) : Body → Prop
  | .done => True
  | .endless => ∃ c ∈ narrowingsAt ctx p, p.selection? = none ∧ c.name ∈ trail
  | .leaf f rest =>
    f ∈ fieldsAt ctx p ∧ ctx.schema.findSelectable? f.typeName = none ∧ rest.Follows ctx p trail
  | .branch f target below rest =>
    LeadsOn ctx p f target.type
      ∧ target = headAt ctx target.type (p.below f target.type).selection?
      ∧ below = grow ctx (p.below f target.type) [target.type.name]
      ∧ rest.Follows ctx p trail
  | .fragment target below rest =>
    target.type ∈ narrowingsAt ctx p
      ∧ target = headAt ctx target.type (p.inside target.type).selection?
      ∧ below = grow ctx (p.inside target.type) (trailInside p trail target.type)
      ∧ rest.Follows ctx p trail

variable {ctx : Context} {p : Position} {trail : List String}

private lemma follows_addField {f : Field} {rest : Body} (hf : f ∈ fieldsAt ctx p)
    (h : rest.Follows ctx p trail) : (addField ctx p f rest).Follows ctx p trail := by
  rw [addField]
  split
  · rename_i hnone
    exact ⟨hf, hnone, h⟩
  · rename_i target hfound
    split
    · rename_i hpass
      exact ⟨⟨hf, hfound, hpass⟩, rfl, rfl, h⟩
    · exact h

private lemma follows_addFragment {c : TypeDef} {rest : Body} (hc : c ∈ narrowingsAt ctx p)
    (h : rest.Follows ctx p trail) : (addFragment ctx p trail c rest).Follows ctx p trail := by
  rw [addFragment]
  split
  · rename_i hback
    exact ⟨c, hc, hback⟩
  · exact ⟨hc, rfl, rfl, h⟩

theorem follows_grow (ctx : Context) (p : Position) (trail : List String) :
    (grow ctx p trail).Follows ctx p trail := by
  rw [grow_eq]
  have hfragments : ((narrowingsAt ctx p).foldr (addFragment ctx p trail) .done).Follows ctx p
      trail :=
    List.foldrRecOn _ _ trivial fun _ hrest _ hc => follows_addFragment hc hrest
  exact List.foldrRecOn _ _ hfragments fun _ hrest _ hf => follows_addField hf hrest

/-! ## Whole trees -/

/-- Nowhere in the tree do the fragments go on without an end. -/
def IsWhole : Body → Prop
  | .done => True
  | .endless => False
  | .leaf _ rest => rest.IsWhole
  | .branch _ _ below rest => below.IsWhole ∧ rest.IsWhole
  | .fragment _ below rest => below.IsWhole ∧ rest.IsWhole

/-- An entry of a spine: a field without sub-fields, a field with a type below it, or a
fragment. -/
inductive Entry where
  | leaf (field : Field)
  | branch (field : Field) (target : TypeDef)
  | fragment (target : TypeDef)

/-- What the method for an entry does. -/
def Entry.action (access : RootAccess) : Entry → MethodAction
  | leaf f => .select f.name
  | branch f _ => .descend f.name access
  | fragment c => .narrow c.name access

/-- The position to which an entry leads. -/
def Entry.position? (p : Position) : Entry → Option Position
  | leaf _ => none
  | branch f target => some (p.below f target)
  | fragment c => some (p.inside c)

/-- The entries of a spine, in order. -/
def entries : Body → List Entry
  | .done | .endless => []
  | .leaf f rest => .leaf f :: rest.entries
  | .branch f target _ rest => .branch f target.type :: rest.entries
  | .fragment target _ rest => .fragment target.type :: rest.entries

/-- The entry for a field, if it has one. -/
def entryFor? (ctx : Context) (p : Position) (f : Field) : Option Entry :=
  match ctx.schema.findSelectable? f.typeName with
  | none => some (.leaf f)
  | some target => if mayPass ctx p target then some (.branch f target) else none

/-- The entries that a position calls for. -/
def entriesAt (ctx : Context) (p : Position) : List Entry :=
  (fieldsAt ctx p).filterMap (entryFor? ctx p) ++ (narrowingsAt ctx p).map .fragment

private lemma entries_addField (f : Field) (rest : Body) :
    (addField ctx p f rest).entries = (entryFor? ctx p f).toList ++ rest.entries := by
  unfold addField entryFor?
  split
  · rfl
  · split <;> rfl

private lemma isWhole_of_addField {f : Field} {rest : Body}
    (h : (addField ctx p f rest).IsWhole) : rest.IsWhole := by
  unfold addField at h
  split at h
  · exact h
  · split at h
    · exact h.2
    · exact h

private lemma entries_fragments (cs : List TypeDef)
    (h : (cs.foldr (addFragment ctx p trail) .done).IsWhole) :
    (cs.foldr (addFragment ctx p trail) .done).entries = cs.map .fragment := by
  induction cs with
  | nil => rfl
  | cons c cs ih =>
    rw [List.foldr_cons, addFragment] at h ⊢
    -- a fragment that leads back would leave a tree that is not whole
    split at h
    · exact h.elim
    · rename_i hback
      rw [if_neg hback, entries, ih h.2]
      rfl

/-- A whole tree has an entry for everything that its position calls for. -/
theorem entries_grow (h : (grow ctx p trail).IsWhole) :
    (grow ctx p trail).entries = entriesAt ctx p := by
  rw [grow_eq] at h ⊢
  unfold entriesAt
  generalize fieldsAt ctx p = fs at h ⊢
  induction fs with
  | nil => exact entries_fragments _ h
  | cons f fs ih =>
    rw [List.foldr_cons] at h ⊢
    rw [entries_addField, ih (isWhole_of_addField h), List.filterMap_cons]
    cases entryFor? ctx p f with
    | none => rfl
    | some e => rfl

/-! ## Entries of a position -/

lemma leaf_mem_entriesAt {f : Field} (hf : f ∈ fieldsAt ctx p)
    (h : ctx.schema.findSelectable? f.typeName = none) : .leaf f ∈ entriesAt ctx p := by
  refine List.mem_append_left _ (List.mem_filterMap.mpr ⟨f, hf, ?_⟩)
  rw [entryFor?, h]

lemma branch_mem_entriesAt {f : Field} {target : TypeDef} (h : LeadsOn ctx p f target) :
    .branch f target ∈ entriesAt ctx p := by
  refine List.mem_append_left _ (List.mem_filterMap.mpr ⟨f, h.chosen, ?_⟩)
  rw [entryFor?, h.found]
  exact if_pos h.passes

lemma fragment_mem_entriesAt {c : TypeDef} (h : c ∈ narrowingsAt ctx p) :
    .fragment c ∈ entriesAt ctx p :=
  List.mem_append_right _ (List.mem_map_of_mem h)

/-- Only the fields that lead on have classes below them. -/
lemma leadsOn_of_mem_entriesAt {f : Field} {target : TypeDef}
    (h : .branch f target ∈ entriesAt ctx p) : LeadsOn ctx p f target := by
  rcases List.mem_append.mp h with h | h
  · obtain ⟨g, hg, hentry⟩ := List.mem_filterMap.mp h
    unfold entryFor? at hentry
    split at hentry
    · cases hentry
    · rename_i u hfound
      split at hentry
      · rename_i hpass
        cases hentry
        exact ⟨hg, hfound, hpass⟩
      · cases hentry
  · obtain ⟨c, _, hentry⟩ := List.mem_map.mp h
    cases hentry

lemma mem_narrowingsAt_of_mem_entriesAt {c : TypeDef} (h : .fragment c ∈ entriesAt ctx p) :
    c ∈ narrowingsAt ctx p := by
  rcases List.mem_append.mp h with h | h
  · obtain ⟨f, _, hentry⟩ := List.mem_filterMap.mp h
    unfold entryFor? at hentry
    split at hentry
    · cases hentry
    · split at hentry <;> cases hentry
  · obtain ⟨d, hd, hentry⟩ := List.mem_map.mp h
    cases hentry
    exact hd

/-- The positions to which the entries of a position lead are those of the classes that are made
as a part of its class. -/
theorem exists_entry_of_nested {q : Position} (h : Nested ctx p q) :
    ∃ e ∈ entriesAt ctx p, e.position? p = some q := by
  cases h with
  | descend h => exact ⟨_, branch_mem_entriesAt h, rfl⟩
  | narrow h => exact ⟨_, fragment_mem_entriesAt h, rfl⟩

end Body

end ClientGen.Projection
