import ClientGen.Proofs.Calls.Accessors
import ClientGen.Proofs.Generation.RootFields

/-!
# What can be reached from a root

A projection class has no method for a field whose edge has been passed on the way to it. Nothing is
lost by that: what can be reached along a path that passes an edge twice can be reached along a
shorter one. A path that visits no type twice passes no edge twice, and its classes are all there.

* `ReachesIn` is reachability in the schema, with the number of fields on the way.
* `ReachesIn.exists_way` cuts the loops out of a path.
* `Way.exists_stand` follows what is left of it along the classes of a run.
* `reachable_types_have_classes` puts both together.
-/

namespace ClientGen

open ClientGen.Projection

variable {ctx : Context} {o : Output}

/-! ## Reachability -/

/-- The fields of a type that are kept without a selection. -/
def keptFields (ctx : Context) (type : String) : List Field :=
  (ctx.config.selectFields type (ctx.schema.fieldsOf type) none false).fields

/-- The types behind an interface or a union that are kept without a selection. -/
def keptTypes (ctx : Context) (type : String) : List TypeDef :=
  ctx.config.selectConcreteTypes (concreteTypesOf ctx type) none

/-- From one type another is reached, over some number of fields that have something to be
selected; fragments are not counted. -/
inductive ReachesIn (ctx : Context) (start : String) : ℕ → String → Prop where
  | start : ReachesIn ctx start 0 start
  | field {k : ℕ} {t : String} {f : Field} {u : TypeDef} (h : ReachesIn ctx start k t)
      (hf : f ∈ keptFields ctx t) (hu : ctx.schema.findSelectable? f.typeName = some u) :
      ReachesIn ctx start (k + 1) u.name
  | fragment {k : ℕ} {t : String} {c : TypeDef} (h : ReachesIn ctx start k t)
      (hc : c ∈ keptTypes ctx t) : ReachesIn ctx start k c.name

/-- A path that visits no type twice, as the list of the visited types, the last one first. -/
inductive Way (ctx : Context) (start : String) : List String → ℕ → Prop where
  | start : Way ctx start [start] 0
  | field {k : ℕ} {t : String} {visited : List String} {f : Field} {u : TypeDef}
      (h : Way ctx start (t :: visited) k) (hf : f ∈ keptFields ctx t)
      (hu : ctx.schema.findSelectable? f.typeName = some u) (hnew : u.name ∉ t :: visited) :
      Way ctx start (u.name :: t :: visited) (k + 1)
  | fragment {k : ℕ} {t : String} {visited : List String} {c : TypeDef}
      (h : Way ctx start (t :: visited) k) (hc : c ∈ keptTypes ctx t)
      (hnew : c.name ∉ t :: visited) : Way ctx start (c.name :: t :: visited) k

/-- To each type that a way visits there is a way of its own, which is no longer. -/
lemma Way.exists_to {start u : String} {visited : List String} {k : ℕ}
    (h : Way ctx start visited k) (hu : u ∈ visited) :
    ∃ before j, j ≤ k ∧ Way ctx start (u :: before) j := by
  induction h with
  | start =>
    obtain rfl := List.mem_singleton.mp hu
    exact ⟨[], 0, Nat.le_refl 0, .start⟩
  | @field k t visited f v h hf hv hnew ih =>
    rcases List.mem_cons.mp hu with rfl | hu
    · exact ⟨t :: visited, k + 1, Nat.le_refl _, .field h hf hv hnew⟩
    · obtain ⟨before, j, hj, hway⟩ := ih hu
      exact ⟨before, j, Nat.le_succ_of_le hj, hway⟩
  | @fragment k t visited c h hc hnew ih =>
    rcases List.mem_cons.mp hu with rfl | hu
    · exact ⟨t :: visited, k, Nat.le_refl _, .fragment h hc hnew⟩
    · exact ih hu

/-- What is reached is reached without visiting a type twice, over no more fields. -/
lemma ReachesIn.exists_way {start t : String} {k : ℕ} (h : ReachesIn ctx start k t) :
    ∃ visited j, j ≤ k ∧ Way ctx start (t :: visited) j := by
  induction h with
  | start => exact ⟨[], 0, Nat.le_refl 0, .start⟩
  | @field k t f u _ hf hu ih =>
    obtain ⟨visited, j, hj, hway⟩ := ih
    by_cases hback : u.name ∈ t :: visited
    · -- the step leads back, so the loop is cut out
      obtain ⟨before, i, hi, hshort⟩ := hway.exists_to hback
      exact ⟨before, i, by omega, hshort⟩
    · exact ⟨t :: visited, j + 1, by omega, hway.field hf hu hback⟩
  | @fragment k t c _ hc ih =>
    obtain ⟨visited, j, hj, hway⟩ := ih
    by_cases hback : c.name ∈ t :: visited
    · obtain ⟨before, i, hi, hshort⟩ := hway.exists_to hback
      exact ⟨before, i, by omega, hshort⟩
    · exact ⟨t :: visited, j, hj, hway.fragment hc hback⟩

lemma Way.nodup {start : String} {visited : List String} {k : ℕ} (h : Way ctx start visited k) :
    visited.Nodup := by
  induction h with
  | start => exact List.nodup_singleton start
  | field _ _ _ hnew ih => exact List.nodup_cons.mpr ⟨hnew, ih⟩
  | fragment _ _ hnew ih => exact List.nodup_cons.mpr ⟨hnew, ih⟩

/-! ## Methods at a position -/

section

variable {p : Position}

/-- Without a selection, the fields at a position are those that are kept of its type. -/
lemma fieldsAt_of_none (hknown : ∃ t ∈ ctx.schema.types, t.name = p.typeName)
    (hnone : p.selection? = none) : fieldsAt ctx p = keptFields ctx p.typeName := by
  obtain ⟨t, ht⟩ := exists_findType? hknown
  unfold fieldsAt keptFields
  rw [ht, hnone, ← Schema.findType?_name ht]
  rfl

lemma narrowingsAt_of_none (hknown : ∃ t ∈ ctx.schema.types, t.name = p.typeName)
    (hnone : p.selection? = none) : narrowingsAt ctx p = keptTypes ctx p.typeName := by
  obtain ⟨t, ht⟩ := exists_findType? hknown
  unfold narrowingsAt keptTypes concreteTypesOf
  rw [ht, hnone]
  rfl

/-- Every entry of the position of a class has its method. -/
lemma exists_method (h : generate ctx = .ok o) {d : ProjectionClass} {up : List ProjectionClass}
    (hplaced : Placed ctx o d up p) (hnot : d.isFederationRoot ctx = false) :
    (∃ t ∈ ctx.schema.types, t.name = p.typeName)
      ∧ ∀ e ∈ Body.entriesAt ctx p, ∃ m ∈ d.methods, m.action = e.action d.access := by
  obtain ⟨up', p', hplaced', hmethods, hknown⟩ :=
    explained_of_generate h hplaced.chain.mem hnot
  -- the class has one chain only, and the chain tells the position
  obtain rfl := hplaced'.chain.unique (balanced_of_generate h) hplaced.chain
  obtain rfl := hplaced'.position
  obtain rfl := hplaced.position
  refine ⟨hknown, fun e he => ?_⟩
  have haction : e.action d.access ∈ d.methods.map (·.action) :=
    hmethods ▸ List.mem_map_of_mem he
  exact List.mem_map.mp haction

end

/-! ## Following a way -/

/-- A class in the tree of another one stands at the end of a way: at its last type, as deep as the
way has fields, without a selection, and all edges passed lead from the types visited before. -/
structure Stands (ctx : Context) (o : Output) (c : ProjectionClass) (t : String)
    (before : List String) (k : ℕ) (d : ProjectionClass) (up : List ProjectionClass)
    (p : Position) : Prop where
  placed : Placed ctx o d up p
  inTree : (d :: up).getLast? = some c
  notFederation : d.isFederationRoot ctx = false
  type : p.typeName = t
  selection : p.selection? = none
  depth : p.depth = k
  edges : ∀ e ∈ p.edges, e.2 ∈ before

namespace Stands

variable {c d : ProjectionClass} {t : String} {before : List String} {k : ℕ}
  {up : List ProjectionClass} {p : Position}

lemma schemaType (h : Stands ctx o c t before k d up p) : d.schemaType = t := by
  have hposition := congrArg Position.typeName h.placed.position
  exact hposition.trans h.type

/-- What a method of the class returns is there. -/
lemma exists_returned (hrun : generate ctx = .ok o) (h : Stands ctx o c t before k d up p)
    {m : Method} (hm : m ∈ d.methods) (haccessor : m.isAccessor = true) :
    ∃ e ∈ o.projections, Returns ctx d m e := by
  obtain ⟨link, hlink⟩ := exists_link haccessor d
  obtain ⟨e, he, harrival⟩ := (balanced_of_generate hrun).exists_returned h.placed.chain.mem
    h.notFederation hm hlink
  exact ⟨e, he, returns_of_link hlink harrival⟩

/-- As long as the depth is not used up, fields lead on to all types, if the type at hand has not
been visited before. -/
lemma leadsOn (hrun : generate ctx = .ok o) (h : Stands ctx o c t before k d up p)
    (hnew : t ∉ before) (hdepth : ctx.config.mayDescend k = true) {f : Field} {u : TypeDef}
    (hf : f ∈ keptFields ctx t) (hu : ctx.schema.findSelectable? f.typeName = some u) :
    LeadsOn ctx p f u := by
  obtain ⟨hknown, _⟩ := exists_method hrun h.placed h.notFederation
  refine ⟨?_, hu, ?_⟩
  · rw [fieldsAt_of_none hknown h.selection, h.type]
    exact hf
  · have hfresh : (u.name, p.typeName) ∉ p.edges := by
      intro hpassed
      exact hnew (h.type ▸ h.edges _ hpassed)
    unfold mayPass
    rw [h.depth, hdepth, Bool.true_and]
    exact decide_eq_true hfresh

/-- A step to a field. -/
lemma below (hrun : generate ctx = .ok o) (h : Stands ctx o c t before k d up p)
    {f : Field} {u : TypeDef} (hleads : LeadsOn ctx p f u) :
    ∃ e, Stands ctx o c u.name (t :: before) (k + 1) e (d :: up) (p.below f u) := by
  obtain ⟨_, hmethods⟩ := exists_method hrun h.placed h.notFederation
  obtain ⟨m, hm, haction⟩ := hmethods _ (Body.branch_mem_entriesAt hleads)
  obtain ⟨e, he, hreturns⟩ := h.exists_returned hrun hm (by rw [Method.isAccessor, haction]; rfl)
  have htarget := hreturns.target
  rw [haction] at htarget
  obtain ⟨hbase, htype⟩ := htarget
  have hname : e.schemaType = u.name := by
    rw [h.schemaType, ← h.type, fieldTypeName?_of_mem hleads.chosen] at htype
    rw [← Option.some.inj htype]
    exact (Schema.findType?_name (Schema.findSelectable?_eq_some hleads.found)).symm
  refine ⟨e, ?_, ?_, ?_, rfl, ?_, ?_, ?_⟩
  · exact placed_below (balanced_of_generate hrun) h.placed h.notFederation hm haction he
      hreturns.name.symm hbase hreturns.parent hname
  · rw [List.getLast?_cons_cons]
    exact h.inTree
  · exact isFederationRoot_of_base (by rw [hbase]; decide)
  · show Context.childSelection? p.selection? _ _ = none
    rw [h.selection]
    rfl
  · exact congrArg (· + 1) h.depth
  · intro edge hedge
    -- the new edge leads from the type at hand
    rcases List.mem_insert_iff.mp hedge with rfl | hedge
    · rw [h.type]
      exact List.mem_cons_self
    · exact List.mem_cons_of_mem _ (h.edges edge hedge)

/-- A step into a fragment. -/
lemma inside (hrun : generate ctx = .ok o) (h : Stands ctx o c t before k d up p)
    {v : TypeDef} (hv : v ∈ keptTypes ctx t) :
    ∃ e, Stands ctx o c v.name (t :: before) k e (d :: up) (p.inside v) := by
  obtain ⟨hknown, hmethods⟩ := exists_method hrun h.placed h.notFederation
  have hnarrows : v ∈ narrowingsAt ctx p := by
    rw [narrowingsAt_of_none hknown h.selection, h.type]
    exact hv
  obtain ⟨m, hm, haction⟩ := hmethods _ (Body.fragment_mem_entriesAt hnarrows)
  obtain ⟨e, he, hreturns⟩ := h.exists_returned hrun hm (by rw [Method.isAccessor, haction]; rfl)
  have htarget := hreturns.target
  rw [haction] at htarget
  obtain ⟨hbase, htypename, htype, _⟩ := htarget
  refine ⟨e, ?_, ?_, ?_, rfl, ?_, h.depth, ?_⟩
  · exact placed_inside (balanced_of_generate hrun) h.placed h.notFederation hm haction he
      hreturns.name.symm hbase htypename hreturns.parent htype
  · rw [List.getLast?_cons_cons]
    exact h.inTree
  · exact isFederationRoot_of_base (by rw [hbase]; decide)
  · show Context.fragmentSelection? p.selection? _ = none
    rw [h.selection]
    rfl
  · exact fun edge hedge => List.mem_cons_of_mem _ (h.edges edge hedge)

end Stands

lemma mayDescend_iff {k : ℕ} :
    ctx.config.mayDescend k = true ↔ ∀ limit, ctx.config.maxDepth? = some limit → k < limit := by
  unfold Config.mayDescend
  cases ctx.config.maxDepth? with
  | none => simp
  | some limit => simp

/-- At the end of a way from the start of a tree a class of the tree stands. -/
theorem Way.exists_stand (hrun : generate ctx = .ok o) {c : ProjectionClass}
    (hc : c ∈ o.projections) (hstarts : c.startsTree = true)
    (hnot : c.isFederationRoot ctx = false) (hnone : startSelection? ctx c = none)
    {visited : List String} {k : ℕ} (h : Way ctx c.schemaType visited k)
    (hlimit : ∀ limit, ctx.config.maxDepth? = some limit → k ≤ limit) {t : String}
    {before : List String} (hvisited : visited = t :: before) :
    ∃ d up p, Stands ctx o c t before k d up p := by
  induction h generalizing t before with
  | start =>
    obtain ⟨rfl, rfl⟩ := List.cons.inj hvisited
    obtain ⟨_, p, hplaced, _, u, _, hname⟩ := explained_of_generate hrun hc hnot
    have htype : c.schemaType = u.name :=
      (congrArg Position.typeName hplaced.position).trans hname.symm
    exact ⟨c, [], _, placed_start hc hstarts htype hnone, rfl, hnot, htype.symm, rfl, rfl,
      fun _ he => absurd he List.not_mem_nil⟩
  | @field k s visited f u h hf hu hnew ih =>
    obtain ⟨rfl, rfl⟩ := List.cons.inj hvisited
    obtain ⟨d, up, p, hstands⟩ := ih (fun limit hl => by have := hlimit limit hl; omega) rfl
    -- no edge from the type at hand has been passed, as the way has not been there before
    have hfresh := (List.nodup_cons.mp h.nodup).1
    have hdepth : ctx.config.mayDescend k = true := mayDescend_iff.mpr hlimit
    have hleads := hstands.leadsOn hrun hfresh hdepth hf hu
    obtain ⟨e, he⟩ := hstands.below hrun hleads
    exact ⟨e, d :: up, _, he⟩
  | @fragment k s visited v h hv hnew ih =>
    obtain ⟨rfl, rfl⟩ := List.cons.inj hvisited
    obtain ⟨d, up, p, hstands⟩ := ih hlimit rfl
    obtain ⟨e, he⟩ := hstands.inside hrun hv
    exact ⟨e, d :: up, _, he⟩

/-- From the start of a tree without a selection, whatever is reached over as many fields as the
depth allows has a class in the tree. The class has a method for each field that is kept and has
nothing to be selected; and if the depth is not used up, it has one for each other field. -/
theorem reachable_types_have_classes (h : generate ctx = .ok o) :
    ∀ c ∈ o.projections, c.startsTree = true → c.isFederationRoot ctx = false →
      startSelection? ctx c = none → ∀ k t, ReachesIn ctx c.schemaType k t →
        (∀ limit, ctx.config.maxDepth? = some limit → k ≤ limit) →
          ∃ d up, IsChain o (d :: up) ∧ (d :: up).getLast? = some c ∧ d.schemaType = t
            ∧ (∀ f ∈ keptFields ctx t, ctx.schema.findSelectable? f.typeName = none →
                ∃ m ∈ d.methods, m.action = .select f.name)
            ∧ (ctx.config.mayDescend k = true → ∀ f ∈ keptFields ctx t, ∀ u,
                ctx.schema.findSelectable? f.typeName = some u →
                  ∃ m ∈ d.methods, m.action = .descend f.name d.access) := by
  intro c hc hstarts hnot hnone k t hreaches hlimit
  obtain ⟨before, j, hj, hway⟩ := hreaches.exists_way
  obtain ⟨d, up, p, hstands⟩ := hway.exists_stand h hc hstarts hnot hnone
    (fun limit hl => hj.trans (hlimit limit hl)) rfl
  obtain ⟨hknown, hmethods⟩ := exists_method h hstands.placed hstands.notFederation
  have hnew := (List.nodup_cons.mp hway.nodup).1
  refine ⟨d, up, hstands.placed.chain, hstands.inTree, hstands.schemaType, ?_, ?_⟩
  · intro f hf hleaf
    have hchosen : f ∈ fieldsAt ctx p := by
      rw [fieldsAt_of_none hknown hstands.selection, hstands.type]
      exact hf
    exact hmethods _ (Body.leaf_mem_entriesAt hchosen hleaf)
  · intro hdepth f hf u hu
    have hless : ctx.config.mayDescend j = true :=
      mayDescend_iff.mpr fun limit hl => hj.trans_lt (mayDescend_iff.mp hdepth limit hl)
    exact hmethods _ (Body.branch_mem_entriesAt (hstands.leadsOn h hnew hless hf hu))

/-- The setting of `type Query { me: Person }`, `type Person { name: String pet: Pet }` and
`type Pet { owner: Person }`, with nothing configured. -/
def petOwners : Context where
  schema :=
    { types :=
        [queryType (plainField "me" "Person"),
         { name := "Person"
           kind := .object
           fields := [plainField "name" "String", plainField "pet" "Pet"] },
         { name := "Pet", kind := .object, fields := [plainField "owner" "Person"] }] }

/-- The pet of the owner of a pet is at an edge that has been passed before. There is a class for
pets in the tree all the same, and it leads to owners. -/
theorem reachable_types_have_classes_petOwners :
    ∃ o, generate petOwners = .ok o
      ∧ ∃ c ∈ o.projections, c.name = "MeProjectionRoot"
        ∧ ReachesIn petOwners c.schemaType 3 "Pet"
        ∧ ∃ d up, IsChain o (d :: up) ∧ (d :: up).getLast? = some c ∧ d.schemaType = "Pet"
          ∧ ∃ m ∈ d.methods, m.action = .descend "owner" d.access := by
  obtain ⟨o, ho⟩ : ∃ o, generate petOwners = .ok o :=
    exists_generate_of_objectMembers (by decide) (by decide) (by decide)
  have hapart : petOwners.TypesApart := ⟨by decide, fun _ _ hexample => by cases hexample⟩
  have hmade : ("MeProjectionRoot", "Person") ∈ o.fieldRoots petOwners := by
    rw [(serves_of_generate (by decide) hapart ho).2]
    exact List.mem_cons_self
  obtain ⟨c, hc, hbase, hname, htype, hnot⟩ := exists_of_mem_fieldRoots hmade
  have hstarts : c.startsTree = true := by
    rw [ProjectionClass.startsTree, hbase]
    rfl
  have hnone : startSelection? petOwners c = none := by
    rw [startSelection?, if_pos hbase, hname]
    rfl
  have hpet : plainField "pet" "Pet" ∈ keptFields petOwners "Person" :=
    List.mem_cons_of_mem _ List.mem_cons_self
  have howner : plainField "owner" "Person" ∈ keptFields petOwners "Pet" := List.mem_cons_self
  have hreaches : ReachesIn petOwners c.schemaType 3 "Pet" := by
    rw [htype]
    have hfirst : ReachesIn petOwners "Person" 1 "Pet" := .field .start hpet rfl
    have hback : ReachesIn petOwners "Person" 2 "Person" := .field hfirst howner rfl
    exact .field hback hpet rfl
  have hlimit : ∀ limit, petOwners.config.maxDepth? = some limit → 3 ≤ limit := by
    intro limit hlimit
    obtain rfl : 10 = limit := Option.some.inj hlimit
    decide
  obtain ⟨d, up, hchain, hlast, hdtype, _, hdescends⟩ :=
    reachable_types_have_classes ho c hc hstarts hnot hnone 3 "Pet" hreaches hlimit
  exact ⟨o, ho, c, hc, hname, hreaches, d, up, hchain, hlast, hdtype,
    hdescends rfl _ howner _ rfl⟩

/-! ## The federation root -/

/-- A type without a key. -/
def unkeyedType : TypeDef where
  name := "B"
  kind := .object
  fields := [plainField "id" "ID"]

/-- The setting of an entity type, another type, and a declared union of both that has the name of
the union of all entities, with nothing configured. -/
def declaredEntities : Context where
  schema :=
    { types :=
        [keyedType "A", unkeyedType,
         { name := "_Entity", kind := .union, members := ["A", "B"] }] }

/-- The tree of the one entity type has one class. -/
lemma schemaType_of_mem_keyTree {tree : Output} {st st' : RunState}
    (h : emitTree declaredEntities none (keyPlan "A") (keyedType "A") none st = .ok tree st')
    {d : ProjectionClass} (hd : d ∈ tree.projections) : d.schemaType = "A" := by
  rcases emitTree_cases h with ⟨_, rfl, _⟩ | hmade
  · cases hd
  · obtain ⟨stem, ready, members, filled, own, _, hemits, hown, rfl⟩ := hmade
    have hgrow : Body.grow declaredEntities (.start (keyedType "A").name none)
        [(keyedType "A").name] = .leaf (plainField "id" "ID") .done := by
      rw [Body.grow_eq]
      rfl
    rw [projections_output _ _ _ (bringsTypes_of_ownTypes hown).projections
      (arguments_of_emits hemits)] at hd
    rw [hgrow] at hemits
    cases hemits with
    | leaf _ hrest =>
      cases hrest
      obtain rfl := List.mem_singleton.mp hd
      rfl

/-- The federation root stands for the entity types, whatever the union of its name lists: the
second member of the declared union has no class. -/
theorem declaredEntities_lacks_member :
    ∃ o, generate declaredEntities = .ok o
      ∧ ∃ c ∈ o.projections, c.base = .root ∧ startSelection? declaredEntities c = none
        ∧ ReachesIn declaredEntities c.schemaType 0 "B"
        ∧ ∀ d ∈ o.projections, d.schemaType ≠ "B" := by
  obtain ⟨o, ho⟩ : ∃ o, generate declaredEntities = .ok o :=
    exists_generate_of_objectMembers (by decide) (by decide) (by decide)
  obtain ⟨roots, mid, entities, st', hroots, hentities, rfl⟩ := exists_of_generate ho
  obtain ⟨rfl, rfl⟩ := Run.pure_eq_ok.mp hroots
  -- there is an entity type, and no name has been given out, so the federation root is made
  obtain ⟨hnone, _⟩ | ⟨_, methods, fragments, hfragments, rfl⟩ := generateEntities_cases hentities
  · exact absurd hnone (by decide)
  have hkept : unkeyedType ∈ keptTypes declaredEntities "_Entity" :=
    List.mem_cons_of_mem _ List.mem_cons_self
  have hmember : ReachesIn declaredEntities "_Entity" 0 "B" := .fragment .start hkept
  refine ⟨_, ho, entitiesClass declaredEntities methods, List.mem_cons_self, rfl, rfl, hmember,
    fun d hd hsame => ?_⟩
  rcases List.mem_cons.mp hd with rfl | hd
  · exact absurd hsame (by decide : entityUnion ≠ "B")
  · obtain ⟨t, ht, tree, _, _, htree, hmem, _⟩ := inKeyTree_of_emitEntityFragments hfragments d hd
    obtain rfl : t = keyedType "A" := List.mem_singleton.mp ht
    rw [schemaType_of_mem_keyTree htree hmem] at hsame
    exact absurd hsame (by decide)

end ClientGen
