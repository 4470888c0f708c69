import ClientGen.Proofs.Calls.Accessors
import ClientGen.Proofs.Emission.Below
import ClientGen.Proofs.Generation.Methods

/-!
# Excluded types

A configuration may exclude types. The walk comes to a type through a root field, through a field of
a class, through a fragment or through a key. The first three ways are closed to the types that are
excluded. The keys are not held against the list of these types: an excluded entity type has a
fragment like any other.

* `Origin` lists the ways, and `origin_of_generate` finds that of a class of a run.
* `excluded_types_have_no_classes` says which ways are closed, and under which condition no class
  at all is about an excluded type.
-/

namespace ClientGen

open ClientGen.Projection

/-! ## One class -/

/-- No method of a class adds a fragment on one of some types. -/
def ProjectionClass.AvoidsFragments (types : List String) (c : ProjectionClass) : Prop :=
  ∀ m ∈ c.methods, ∀ type access, m.action = .narrow type access → type ∉ types

/-- No class is about one of some types, and no method adds a fragment on one. -/
def Output.Omits (types : List String) (o : Output) : Prop :=
  ∀ c ∈ o.projections, c.schemaType ∉ types ∧ c.AvoidsFragments types

variable {ctx : Context} {o : Output} {c d : ProjectionClass} {m : Method}

lemma Projection.typeName_of_mem_fieldsAt {p : Position} {f : Field} (h : f ∈ fieldsAt ctx p) :
    f.typeName ∉ ctx.config.excludeTypes := by
  unfold fieldsAt at h
  split at h
  · cases h
  · exact Config.typeName_of_mem_selectFields h

lemma Projection.name_of_mem_narrowingsAt {p : Position} {t : TypeDef}
    (h : t ∈ narrowingsAt ctx p) : t.name ∉ ctx.config.excludeTypes := by
  unfold narrowingsAt at h
  split at h
  · cases h
  · exact Config.name_of_mem_selectConcreteTypes h

/-- A method of a class that is explained stands for an entry of a position at its type. -/
lemma Explained.exists_entry (h : Explained ctx o c) (hm : m ∈ c.methods) :
    ∃ p e, c.schemaType = p.typeName ∧ e ∈ Body.entriesAt ctx p
      ∧ Body.Entry.action c.access e = m.action := by
  obtain ⟨up, p, hplaced, hmethods, _⟩ := h
  have haction : m.action ∈ (Body.entriesAt ctx p).map (Body.Entry.action c.access) :=
    hmethods ▸ List.mem_map_of_mem hm
  obtain ⟨e, he, hsame⟩ := List.mem_map.mp haction
  exact ⟨p, e, congrArg Position.typeName hplaced.position, he, hsame⟩

/-- The fragments of such a class are on types that are not excluded. -/
lemma Explained.avoidsFragments (h : Explained ctx o c) :
    c.AvoidsFragments ctx.config.excludeTypes := by
  intro m hm type access haction
  obtain ⟨p, e, _, he, hsame⟩ := h.exists_entry hm
  rw [haction] at hsame
  cases e with
  | leaf f => cases hsame
  | branch f target => cases hsame
  | fragment t =>
    obtain ⟨rfl, _⟩ := MethodAction.narrow.inj hsame
    exact name_of_mem_narrowingsAt (Body.mem_narrowingsAt_of_mem_entriesAt he)

/-- Its fields lead to types that are not excluded. -/
lemma Explained.not_mem_of_descend (h : Explained ctx o c) (hm : m ∈ c.methods)
    {field type : String} {access : RootAccess} (haction : m.action = .descend field access)
    (htype : fieldTypeName? ctx c.schemaType field = some type) :
    type ∉ ctx.config.excludeTypes := by
  obtain ⟨p, e, hposition, he, hsame⟩ := h.exists_entry hm
  rw [haction] at hsame
  cases e with
  | leaf f => cases hsame
  | fragment t => cases hsame
  | branch f target =>
    obtain ⟨rfl, _⟩ := MethodAction.descend.inj hsame
    have hchosen := (Body.leadsOn_of_mem_entriesAt he).chosen
    -- the name of a field tells its type
    rw [hposition, fieldTypeName?_of_mem hchosen] at htype
    rw [← Option.some.inj htype]
    exact typeName_of_mem_fieldsAt hchosen

/-! ## The ways to a class -/

/-- The entity types of a run. -/
def entityTypes (ctx : Context) : List TypeDef :=
  keyedTypes ctx (ctx.schema.typesOfKind .object)

/-- How the walk has come to a class of an output: it is the federation root, the first class of the
tree of a root field, the fragment on an entity type, or below another class. -/
inductive Origin (ctx : Context) (o : Output) (c : ProjectionClass) : Prop where
  | entities (hroot : c.isFederationRoot ctx = true) (htype : c.schemaType = entityUnion)
      (hmethods : c.methods.map (·.action)
        = (entityTypes ctx).map fun t => .narrow t.name .itself)
  | field {item : TypeDef × Field} (hitem : item ∈ rootItems ctx)
      (htype : c.schemaType = item.2.typeName) (hnot : c.isFederationRoot ctx = false)
  | key {t : TypeDef} (ht : t ∈ entityTypes ctx) (htype : c.schemaType = t.name)
      (hkey : c.isKeyFragment = true) (hroot : ∃ r ∈ o.projections, r.isFederationRoot ctx = true)
  | below (h : c.StandsBelow)

/-- The first class of a tree comes from where the tree does. -/
private lemma origin_of_emitTree {operation? : Option String} {plan : ClassPlan} {t : TypeDef}
    {selection? : Option Selection} {tree : Output} {st st' : RunState}
    (h : emitTree ctx operation? plan t selection? st = .ok tree st')
    (hfirst : ∀ members, Origin ctx o (plan.made ctx (headAt ctx t selection?) members))
    (hc : c ∈ tree.projections) : Origin ctx o c := by
  rcases projections_of_emitTree h with ⟨_, rfl, _⟩ | ⟨_, members, hall, hbelow⟩
  · cases hc
  · rw [hall] at hc
    rcases List.mem_cons.mp hc with rfl | hc
    · exact hfirst members
    · exact .below (hbelow c hc)

theorem origin_of_generate (h : generate ctx = .ok o) (hc : c ∈ o.projections) :
    Origin ctx o c := by
  obtain ⟨roots, mid, entities, st', hroots, hentities, rfl⟩ := exists_of_generate h
  rcases List.mem_append.mp hc with hc | hc
  · obtain ⟨before, item, after, hitems, _, _, htree⟩ := (plants_generateRoots hroots).grown c hc
    obtain ⟨target, tree, first, last, hfind, htree, hmem, _, _⟩ := htree
    have hitem : item ∈ rootItems ctx := by
      show item ∈ (rootTypes ctx.schema).flatMap _
      rw [hitems]
      exact List.mem_append_right _ List.mem_cons_self
    have htype : target.name = item.2.typeName :=
      Schema.findType?_name (Schema.findSelectable?_eq_some hfind)
    exact origin_of_emitTree htree
      (fun members => .field hitem htype (isFederationRoot_made _ _ members)) hmem
  · rcases generateEntities_cases hentities with
      ⟨_, rfl, _⟩ | ⟨_, methods, fragments, hfragments, rfl⟩
    · cases hc
    · have hroot : (entitiesClass ctx methods).isFederationRoot ctx = true := decide_eq_true rfl
      rcases List.mem_cons.mp hc with rfl | hc
      · have hmethods := congrArg (List.map Prod.snd) (methods_of_emitEntityFragments hfragments)
        rw [List.map_map, List.map_map] at hmethods
        exact .entities hroot rfl hmethods
      · obtain ⟨t, ht, tree, first, last, htree, hmem, _⟩ :=
          inKeyTree_of_emitEntityFragments hfragments c hc
        have hmade : entitiesClass ctx methods ∈ (roots ++
            ({ projections := [entitiesClass ctx methods] } ++ fragments)).projections :=
          List.mem_append_right _ List.mem_cons_self
        exact origin_of_emitTree htree
          (fun members => .key ht rfl (isKeyFragment_made t none members) ⟨_, hmade, hroot⟩) hmem

lemma base_of_isKeyFragment (h : c.isKeyFragment = true) : c.base = .fragment := by
  unfold ProjectionClass.isKeyFragment at h
  simp only [Bool.and_eq_true, decide_eq_true_eq] at h
  exact h.1.1.1.1

/-- The federation root is about the union of all entities, and has a method for each of them. -/
lemma federation_of_generate (h : generate ctx = .ok o) (hc : c ∈ o.projections)
    (hroot : c.isFederationRoot ctx = true) :
    c.schemaType = entityUnion
      ∧ c.methods.map (·.action) = (entityTypes ctx).map fun t => .narrow t.name .itself := by
  cases origin_of_generate h hc with
  | entities _ htype hmethods => exact ⟨htype, hmethods⟩
  | field _ _ hnot => rw [hroot] at hnot; cases hnot
  | key _ _ hkey _ =>
    rw [isFederationRoot_of_base (by rw [base_of_isKeyFragment hkey]; decide)] at hroot
    cases hroot
  | below hbelow => rw [isFederationRoot_of_base hbelow.base_ne_root] at hroot; cases hroot

/-- A root field of an excluded type is not generated. -/
lemma typeName_of_mem_rootItems {item : TypeDef × Field} (h : item ∈ rootItems ctx) :
    item.2.typeName ∉ ctx.config.excludeTypes := by
  obtain ⟨root, _, hitem⟩ := List.mem_flatMap.mp h
  obtain ⟨f, hf, rfl⟩ := List.mem_map.mp hitem
  exact Config.typeName_of_mem_selectFields (List.mem_filter.mp hf).1

/-- A class below another one is not about an excluded type: it is returned by a method, which
leads to a field or adds a fragment. -/
lemma schemaType_of_standsBelow (h : generate ctx = .ok o) (hd : d ∈ o.projections)
    (hbelow : d.StandsBelow) : d.schemaType ∉ ctx.config.excludeTypes := by
  obtain ⟨link, harrival⟩ := hbelow.exists_arrival
  obtain ⟨c, m, hmem, hlink⟩ := (balanced_of_generate h).exists_caller hd harrival
  obtain ⟨⟨hc, hnot⟩, hm, _⟩ := Output.mem_accessors.mp hmem
  have hexplained := explained_of_generate h hc hnot
  have htarget := (returns_of_link hlink harrival).target
  cases haction : m.action with
  | select field =>
    rw [haction] at htarget
    exact htarget.elim
  | descend field access =>
    rw [haction] at htarget
    exact hexplained.not_mem_of_descend hm haction htarget.2
  | narrow type access =>
    rw [haction] at htarget
    rw [htarget.2.2.1]
    exact hexplained.avoidsFragments m hm type access haction

/-- Of the classes other than the federation root, only the fragment on an entity type may be about
an excluded type. -/
lemma key_of_excluded (h : generate ctx = .ok o) (hc : c ∈ o.projections)
    (hnot : c.isFederationRoot ctx = false) (hexcluded : c.schemaType ∈ ctx.config.excludeTypes) :
    c.isKeyFragment = true ∧ (∃ t ∈ entityTypes ctx, t.name = c.schemaType)
      ∧ ∃ r ∈ o.projections, r.isFederationRoot ctx = true := by
  cases origin_of_generate h hc with
  | entities hroot _ _ => rw [hnot] at hroot; cases hroot
  | field hitem htype _ => exact absurd (htype ▸ hexcluded) (typeName_of_mem_rootItems hitem)
  | key ht htype hkey hroot => exact ⟨hkey, ⟨_, ht, htype.symm⟩, hroot⟩
  | below hbelow => exact absurd hexcluded (schemaType_of_standsBelow h hc hbelow)

/-! ## Whole runs -/

/-- But for the federation root, no class adds a fragment on an excluded type, and only the fragment
on an entity type may be about one. So no excluded type is there at all exactly if there is no
federation root, or else neither its union nor an entity type is excluded. -/
theorem excluded_types_have_no_classes (h : generate ctx = .ok o) :
    (∀ c ∈ o.projections, c.isFederationRoot ctx = false →
      c.AvoidsFragments ctx.config.excludeTypes
        ∧ (c.schemaType ∈ ctx.config.excludeTypes →
            c.isKeyFragment = true ∧ ∃ t ∈ entityTypes ctx, t.name = c.schemaType))
      ∧ (o.Omits ctx.config.excludeTypes ↔
          ((∃ c ∈ o.projections, c.isFederationRoot ctx = true) →
            entityUnion ∉ ctx.config.excludeTypes
              ∧ ∀ t ∈ entityTypes ctx, t.name ∉ ctx.config.excludeTypes)) := by
  have hclosed : ∀ c ∈ o.projections, c.isFederationRoot ctx = false →
      c.AvoidsFragments ctx.config.excludeTypes
        ∧ (c.schemaType ∈ ctx.config.excludeTypes →
            c.isKeyFragment = true ∧ ∃ t ∈ entityTypes ctx, t.name = c.schemaType) := by
    intro c hc hnot
    refine ⟨(explained_of_generate h hc hnot).avoidsFragments, fun hexcluded => ?_⟩
    obtain ⟨hkey, ht, _⟩ := key_of_excluded h hc hnot hexcluded
    exact ⟨hkey, ht⟩
  refine ⟨hclosed, ?_, ?_⟩
  · rintro homits ⟨c, hc, hroot⟩
    obtain ⟨htype, hmethods⟩ := federation_of_generate h hc hroot
    obtain ⟨hunion, havoids⟩ := homits c hc
    refine ⟨htype ▸ hunion, fun t ht => ?_⟩
    -- the federation root has a method for each entity type
    have haction : MethodAction.narrow t.name .itself ∈ c.methods.map (·.action) :=
      hmethods ▸ List.mem_map_of_mem ht
    obtain ⟨m, hm, hnarrow⟩ := List.mem_map.mp haction
    exact havoids m hm t.name .itself hnarrow
  · intro hentities c hc
    by_cases hroot : c.isFederationRoot ctx = true
    · obtain ⟨htype, hmethods⟩ := federation_of_generate h hc hroot
      obtain ⟨hunion, htypes⟩ := hentities ⟨c, hc, hroot⟩
      refine ⟨htype ▸ hunion, fun m hm type access hnarrow => ?_⟩
      have haction := List.mem_map_of_mem (f := (·.action)) hm
      rw [hmethods] at haction
      obtain ⟨t, ht, hsame⟩ := List.mem_map.mp haction
      rw [hnarrow] at hsame
      obtain ⟨rfl, _⟩ := MethodAction.narrow.inj hsame
      exact htypes t ht
    · have hnot := Bool.eq_false_iff.mpr hroot
      refine ⟨fun hexcluded => ?_, (hclosed c hc hnot).1⟩
      -- where there is a fragment on an entity type, there is the federation root
      obtain ⟨_, ⟨t, ht, htype⟩, hfederation⟩ := key_of_excluded h hc hnot hexcluded
      exact (hentities hfederation).2 t ht (htype ▸ hexcluded)

/-- The setting of `type Query { find: Media film: Film }` with a union of books and films, in which
films are excluded. -/
def withoutFilms : Context where
  schema :=
    { types :=
        [{ queryType (plainField "find" "Media") with
            fields := [plainField "find" "Media", plainField "film" "Film"] },
         { name := "Media", kind := .union, members := ["Book", "Film"] },
         { name := "Book", kind := .object, fields := [plainField "title" "String"] },
         { name := "Film", kind := .object, fields := [plainField "basedOn" "Book"] }] }
  config := { excludeTypes := ["Film"] }

/-- No type of the example has a key, so that films are left out altogether. -/
theorem excluded_types_have_no_classes_withoutFilms :
    ∃ o, generate withoutFilms = .ok o ∧ o.Omits ["Film"] := by
  obtain ⟨o, ho⟩ : ∃ o, generate withoutFilms = .ok o :=
    exists_generate_of_objectMembers (by decide) (by decide) (by decide)
  have hentities : entityUnion ∉ ["Film"]
      ∧ ∀ t ∈ entityTypes withoutFilms, t.name ∉ ["Film"] := by
    decide
  exact ⟨o, ho, (excluded_types_have_no_classes ho).2.mpr fun _ => hentities⟩

/-- The setting of an entity type that is excluded, and nothing else. -/
def excludedEntity : Context where
  schema := { types := [keyedType "Film"] }
  config := { excludeTypes := ["Film"] }

/-- The federation root has a method that adds a fragment on the excluded type. -/
theorem excludedEntity_has_fragment :
    ∃ o, generate excludedEntity = .ok o
      ∧ (∃ c ∈ o.projections, ∃ m ∈ c.methods, m.action = .narrow "Film" .itself)
      ∧ ¬ o.Omits excludedEntity.config.excludeTypes := by
  obtain ⟨o, ho⟩ : ∃ o, generate excludedEntity = .ok o :=
    exists_generate_of_objectMembers (by decide) (by decide) (by decide)
  have hmethod : ∃ c ∈ o.projections, ∃ m ∈ c.methods, m.action = .narrow "Film" .itself := by
    obtain ⟨roots, mid, entities, st', hroots, hentities, rfl⟩ := exists_of_generate ho
    obtain ⟨rfl, rfl⟩ := Run.pure_eq_ok.mp hroots
    -- there is an entity type, and no name has been given out, so the federation root is made
    obtain ⟨hnone, _⟩ | ⟨_, methods, fragments, hfragments, rfl⟩ :=
      generateEntities_cases hentities
    · exact absurd hnone (by decide)
    · obtain ⟨_, _, others, _, _, _, rfl, _⟩ := emitEntityFragments_cons hfragments
      exact ⟨entitiesClass excludedEntity _, List.mem_cons_self, _, List.mem_cons_self, rfl⟩
  refine ⟨o, ho, hmethod, fun homits => ?_⟩
  obtain ⟨c, hc, m, hm, haction⟩ := hmethod
  exact (homits c hc).2 m hm "Film" .itself haction List.mem_cons_self

end ClientGen
