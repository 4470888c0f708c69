import ClientGen.Proofs.Calls.Requested
import ClientGen.Proofs.Generation.EntityTrees
import ClientGen.Proofs.Generation.RootFields

/-!
# Entities after root types

On one context some root types are asked for, and then the entities. The class of the federation
root and those of the fragments on entity types have fixed names. So the entities depend on what
has been given out by then: where one of their names is among it, a class is missing.

* `EntityNamesFree` says that each name is free at its turn.
* `EntityNamesApart` is a condition on the names of a schema alone, under which they are.
* `entity_fragments_have_classes` is the exact account.
-/

namespace ClientGen

open ClientGen.Projection

/-! ## When a class is missing -/

/-- Each name that the entities need is free at its turn: that of the federation root after the root
types, and that of the fragment on a type after the types before it. A type that has the name of an
earlier one shares its fragment. -/
structure EntityNamesFree (ctx : Context) (roots keyed : List TypeDef) : Prop where
  root : clientName ctx entitiesRoot ∉ (History.after ctx (roots.map .root)).state.registry.names
  key : ∀ earlier t later, keyed = earlier ++ t :: later → t.name ∉ earlier.map (·.name) →
    clientName ctx (keyPlan t.name).name
      ∉ (History.after ctx (roots.map .root ++ [.entities earlier])).state.registry.names

variable {ctx : Context} {roots definitions earlier later : List TypeDef} {t : TypeDef}
  {calls : List Call} {methods : List Method} {o : Output} {st st' : RunState}

/-- The state after the name of the federation root has been given out. -/
def withEntitiesRoot (ctx : Context) (st : RunState) : RunState :=
  { st with registry := ⟨clientName ctx entitiesRoot :: st.registry.names⟩ }

lemma entitiesRoot_ne_classOfStem (stem : String) : entitiesRoot ≠ classOfStem stem := by
  have hname : (rootPlan "Entities").name = entitiesRoot := by decide
  rw [← hname]
  exact rootPlan_name_ne_classOfStem "Entities" stem

/-- Where the name of the federation root is free, it comes with the fragments. -/
lemma generateEntities_of_free (hskip : ctx.config.skipEntities = false)
    (hkeyed : keyedTypes ctx definitions ≠ [])
    (hfree : clientName ctx entitiesRoot ∉ st.registry.names)
    (h : emitEntityFragments ctx Naming.projectionNames (keyedTypes ctx definitions)
      (withEntitiesRoot ctx st) = .ok (methods, o) st') :
    generateEntities ctx definitions st = .ok (o.underEntities ctx methods) st' := by
  unfold generateEntities
  have hsome : ¬ (ctx.config.skipEntities || (keyedTypes ctx definitions).isEmpty) = true := by
    simpa [hskip] using hkeyed
  rw [if_neg hsome, Run.bind_eq_ok]
  refine ⟨true, _, registerClass_eq_true.mpr ⟨hfree, rfl⟩, ?_⟩
  exact Run.bind_eq_ok.mpr ⟨(methods, o), st', h, rfl⟩

/-- What is given out after some entity types, apart from the federation root. -/
lemma mem_names_after_entities (hskip : ctx.config.skipEntities = false)
    (hearlier : keyedTypes ctx earlier = earlier)
    (hfree : clientName ctx entitiesRoot ∉ (History.after ctx calls).state.registry.names)
    (h : emitEntityFragments ctx Naming.projectionNames earlier
      (withEntitiesRoot ctx (History.after ctx calls).state) = .ok (methods, o) st')
    {n : String} (hn : n ≠ clientName ctx entitiesRoot) :
    n ∈ (History.after ctx (calls ++ [.entities earlier])).state.registry.names
      ↔ n ∈ st'.registry.names := by
  rw [History.after_concat]
  by_cases hnone : earlier = []
  · obtain rfl := hnone
    obtain ⟨_, _, rfl⟩ := emitEntityFragments_nil h
    have hrun : (Call.entities []).run ctx (History.after ctx calls).state
        = .ok ∅ (History.after ctx calls).state := by
      show generateEntities ctx [] _ = _
      unfold generateEntities
      rw [hearlier, List.isEmpty_nil, Bool.or_true]
      rfl
    rw [History.step_of_ok hrun, withEntitiesRoot, List.mem_cons, or_iff_right hn]
  · have hrun : (Call.entities earlier).run ctx (History.after ctx calls).state
        = .ok (o.underEntities ctx methods) st' := by
      apply generateEntities_of_free hskip (by rw [hearlier]; exact hnone) hfree
      rw [hearlier]
      exact h
    rw [History.step_of_ok hrun]

/-- The turn of an entity type, and what is given out by then. -/
lemma exists_turn_after (hskip : ctx.config.skipEntities = false)
    (hfree : clientName ctx entitiesRoot ∉ (History.after ctx calls).state.registry.names)
    (hsplit : keyedTypes ctx definitions = earlier ++ t :: later)
    (h : emitEntityFragments ctx Naming.projectionNames (keyedTypes ctx definitions)
      (withEntitiesRoot ctx (History.after ctx calls).state) = .ok (methods, o) st') :
    ∃ first before mid,
      emitEntityFragments ctx Naming.projectionNames earlier
        (withEntitiesRoot ctx (History.after ctx calls).state) = .ok (first, before) mid
      ∧ (clientName ctx (keyPlan t.name).name
          ∈ (History.after ctx (calls ++ [.entities earlier])).state.registry.names
        ↔ clientName ctx (keyPlan t.name).name ∈ mid.registry.names) := by
  obtain ⟨first, before, mid, _, _, _, _, _, hfirst, _⟩ := exists_turn (hsplit ▸ h)
  refine ⟨first, before, mid, hfirst, mem_names_after_entities hskip ?_ hfree hfirst ?_⟩
  · -- the types before are entity types as well
    apply List.filter_eq_self.mpr
    intro u hu
    have hmem : u ∈ keyedTypes ctx definitions := hsplit ▸ List.mem_append_left _ hu
    exact (List.mem_filter.mp hmem).2
  · exact fun hsame => entitiesRoot_ne_classOfStem _ (clientName_injective ctx hsame).symm

/-- The entities have their classes exactly if each name that they need is free at its turn. -/
theorem servesEntities_iff_free (hskip : ctx.config.skipEntities = false)
    (hkeyed : keyedTypes ctx definitions ≠ [])
    (h : generateEntities ctx definitions (History.after ctx (roots.map .root)).state = .ok o st') :
    o.ServesEntities (keyedTypes ctx definitions)
      ↔ EntityNamesFree ctx roots (keyedTypes ctx definitions) := by
  rcases generateEntities_cases h with ⟨hnone, rfl, _⟩ | ⟨hfree, methods, fragments, hrun, rfl⟩
  · have hgiven : clientName ctx entitiesRoot
        ∈ (History.after ctx (roots.map .root)).state.registry.names := by
      rcases hnone with hskipped | hempty | hgiven
      · rw [hskip] at hskipped; cases hskipped
      · exact absurd hempty hkeyed
      · exact hgiven
    constructor
    · rintro ⟨root, hroot, _⟩
      cases hroot
    · exact fun hnames => absurd hgiven hnames.root
  · have hconsistent := History.consistent_after ctx (roots.map .root)
    have hcall : (Call.entities definitions).run ctx (History.after ctx (roots.map .root)).state
        = .ok (fragments.underEntities ctx methods) st' := h
    have hnames :=
      (History.consistent_after ctx (roots.map .root ++ [.entities definitions])).nodup_projections
    rw [History.after_concat, History.step_of_ok hcall, Output.projections_append,
      List.map_append] at hnames
    have hiff := servesEntities_iff hrun (List.nodup_cons.mpr ⟨hfree, hconsistent.nodup⟩)
      (List.nodup_append.mp hnames).2.1
    refine hiff.trans ⟨fun hturns => ⟨hfree, ?_⟩, fun hnames => ?_⟩
    · intro earlier t later hsplit hnew
      obtain ⟨first, before, mid, hfirst, hmem⟩ := exists_turn_after hskip hfree hsplit hrun
      rw [hmem]
      exact hturns earlier t later hsplit hnew first before mid hfirst
    · intro earlier t later hsplit hnew first before mid hfirst
      obtain ⟨_, _, mid', hfirst', hmem⟩ := exists_turn_after hskip hfree hsplit hrun
      obtain rfl : mid' = mid := by
        have hsame := hfirst'.symm.trans hfirst
        cases hsame
        rfl
      rw [← hmem]
      exact hnames.key earlier t later hsplit hnew

/-! ## Names of root types -/

/-- The classes of some root types: query classes, the root classes of their fields, and classes
that stand below others. -/
structure Output.OfRoots (ctx : Context) (roots : List TypeDef) (o : Output) : Prop where
  queries : ∀ q ∈ o.queries, q.package = ctx.config.clientNamespace
    ∧ ∃ field, q.name = queryName field
  projections : ∀ c ∈ o.projections, c.StandsBelow
    ∨ ∃ root ∈ roots, ∃ item ∈ itemsOf ctx root (rootFields ctx (rootKind ctx root) root).fields,
        c.name = (rootPlan item.2.name).name

lemma Output.OfRoots.append {a b : Output} (ha : a.OfRoots ctx roots) (hb : b.OfRoots ctx roots) :
    (a ++ b).OfRoots ctx roots where
  queries := fun q hq => (List.mem_append.mp hq).elim (ha.queries q) (hb.queries q)
  projections := fun c hc => (List.mem_append.mp hc).elim (ha.projections c) (hb.projections c)

section

variable (hnames : ctx.schema.Dotless) (hapart : ctx.TypesApart)

include hnames hapart

lemma ofRoots_of_generateRoot {root : TypeDef} (hroot : root ∈ roots)
    (h : generateRoot ctx root st = .ok o st') : o.OfRoots ctx roots := by
  -- one root type, as a row of root types
  have hrow : generateRoots ctx [root] st = .ok (o ++ ∅) st' := by
    unfold generateRoots
    exact Run.bind_eq_ok.mpr ⟨o, st', h, Run.bind_eq_ok.mpr ⟨∅, st', rfl, rfl⟩⟩
  rw [Output.append_empty] at hrow
  constructor
  · intro q hq
    rw [(serves_generateRoots hnames hapart hrow).queries.classes] at hq
    obtain ⟨item, _, rfl⟩ := List.mem_map.mp hq
    exact ⟨rfl, item.2.name, rfl⟩
  · intro c hc
    obtain ⟨before, item, after, hitems, _, _, htree⟩ := (plants_generateRoots hrow).grown c hc
    obtain ⟨target, tree, first, last, _, htree, hmem, _, _⟩ := htree
    rcases projections_of_emitTree htree with ⟨_, rfl, _⟩ | ⟨_, members, hall, hbelow⟩
    · cases hmem
    · rw [hall] at hmem
      rcases List.mem_cons.mp hmem with rfl | hmem
      · refine .inr ⟨root, hroot, item, ?_, rfl⟩
        rw [List.flatMap_cons, List.flatMap_nil, List.append_nil] at hitems
        rw [hitems]
        exact List.mem_append_right _ List.mem_cons_self
      · exact .inl (hbelow c hmem)

lemma ofRoots_after (roots : List TypeDef) :
    (History.after ctx (roots.map .root)).total.OfRoots ctx roots := by
  refine History.total_after ⟨fun _ hq => absurd hq List.not_mem_nil,
    fun _ hc => absurd hc List.not_mem_nil⟩ .append fun c hc => ?_
  obtain ⟨root, hroot, rfl⟩ := List.mem_map.mp hc
  exact ofRoots_of_generateRoot hnames hapart hroot

omit hapart in
/-- A name of the client package is that of a query class or of a projection. -/
lemma cases_of_mem_names (hbelongs : o.Belongs ctx) (htypes : o.Requested ctx (Away ctx))
    {name : String} (hname : Dotless name) (h : clientName ctx name ∈ o.names) :
    (∃ q ∈ o.queries, clientName ctx name = q.package ++ "." ++ q.name)
      ∨ ∃ c ∈ o.projections, c.name = name := by
  rcases Output.mem_names_cases h with hquery | ⟨c, hc, hsame⟩ | htype
  · exact .inl hquery
  · rw [(hbelongs.classes c hc).package] at hsame
    exact .inr ⟨c, hc, (clientName_injective ctx hsame).symm⟩
  · obtain ⟨package, other, haway, hother, hsame⟩ := htypes.names_away hnames htype
    exact (haway (eq_of_qualified hname hother hsame).1.symm).elim

/-- The names of the client package that are given out by root types. -/
lemma cases_of_root_names {name : String} (hname : Dotless name)
    (h : clientName ctx name ∈ (History.after ctx (roots.map .root)).total.names) :
    (∃ field, name = queryName field)
      ∨ (∃ stem, '_' ∈ stem.toList ∧ name = classOfStem stem)
      ∨ ∃ root ∈ roots, ∃ item ∈ itemsOf ctx root (rootFields ctx (rootKind ctx root) root).fields,
          name = (rootPlan item.2.name).name := by
  have hroots := ofRoots_after hnames hapart roots
  have hbelongs := (History.consistent_after ctx (roots.map .root)).belongs
  have hadmits : ∀ c ∈ roots.map Call.root, c.Admitted ctx (Away ctx) := by
    intro c hc
    obtain ⟨root, _, rfl⟩ := List.mem_map.mp hc
    exact fun f _ => ⟨fun _ _ => hapart.shared,
      fun p _ => ⟨fun _ _ => hapart.operation _, fun _ _ _ _ _ _ => hapart.shared⟩⟩
  have htypes := History.requested_after (hereditary_away ctx) (roots.map .root) hadmits
  rcases cases_of_mem_names hnames hbelongs htypes hname h with
    ⟨q, hq, hsame⟩ | ⟨c, hc, rfl⟩
  · obtain ⟨hpackage, field, hfield⟩ := hroots.queries q hq
    rw [hpackage, hfield] at hsame
    exact .inl ⟨field, clientName_injective ctx hsame⟩
  · rcases hroots.projections c hc with hbelow | hroot
    · exact .inr (.inl hbelow.name)
    · exact .inr (.inr hroot)

end

/-! ## Names of entities -/

/-- The names of a schema leave room for the entities: no root field has the name of the federation
root, no entity type has an underscore in its name, and no two of them have names that agree up to
the case of the first letter. Names have no dots, and data types are in packages of their own. -/
structure EntityNamesApart (ctx : Context) (roots keyed : List TypeDef) : Prop where
  schema : ctx.schema.Dotless
  types : ctx.TypesApart
  root : ∀ root ∈ roots,
    ∀ item ∈ itemsOf ctx root (rootFields ctx (rootKind ctx root) root).fields,
      classStem item ≠ "Entities"
  plain : ∀ t ∈ keyed, Dotless t.name ∧ '_' ∉ t.name.toList
  distinct : ∀ t ∈ keyed, ∀ u ∈ keyed,
    Text.capitalized t.name = Text.capitalized u.name → t.name = u.name

lemma not_mem_capitalized {s : String} (h : '_' ∉ s.toList) :
    '_' ∉ (Text.capitalized s).toList := by
  have hupper : ∀ {c : Char}, '_' ∈ Text.upperOf c → c = '_' :=
    Text.eq_of_mem_mapped (by decide) (by decide +kernel) (by decide +kernel)
  unfold Text.capitalized
  split
  · decide
  · rename_i c cs hchars
    rw [hchars] at h
    rw [String.toList_ofList]
    intro hmem
    rcases List.mem_append.mp hmem with hmem | hmem
    · exact h (hupper hmem ▸ List.mem_cons_self)
    · exact h (List.mem_cons_of_mem _ hmem)

/-- A fragment on an entity type without an underscore has no name of a class below another one. -/
lemma keyPlan_name_ne {type stem : String} (htype : '_' ∉ type.toList) (hstem : '_' ∈ stem.toList) :
    (keyPlan type).name ≠ classOfStem stem := by
  intro hsame
  obtain rfl : "Entities" ++ Text.capitalized type ++ "Key" = stem := classOfStem_injective hsame
  simp only [String.toList_append, List.mem_append] at hstem
  rcases hstem with (hstem | hstem) | hstem
  · exact absurd hstem (by decide)
  · exact not_mem_capitalized htype hstem
  · exact absurd hstem (by decide)

lemma capitalized_of_keyPlan_name {type other : String}
    (h : (keyPlan type).name = (keyPlan other).name) :
    Text.capitalized type = Text.capitalized other := by
  have hstem : "Entities" ++ Text.capitalized type ++ "Key"
      = "Entities" ++ Text.capitalized other ++ "Key" := classOfStem_injective h
  exact (String.append_right_inj _).mp ((String.append_left_inj _).mp hstem)

/-- With such names, that of the federation root is free after the root types. -/
lemma EntityNamesApart.root_free {keyed : List TypeDef} (h : EntityNamesApart ctx roots keyed)
    (hreturned : .endlessFragments ∉ (History.after ctx (roots.map .root)).failures) :
    clientName ctx entitiesRoot ∉ (History.after ctx (roots.map .root)).state.registry.names := by
  intro hgiven
  have hname : (rootPlan "Entities").name = entitiesRoot := by decide
  have hmade := ((History.consistent_after ctx _).mem_names_iff hreturned).mp hgiven
  rcases cases_of_root_names h.schema h.types (by decide) hmade with
    ⟨field, hsame⟩ | ⟨stem, _, hsame⟩ | ⟨root, hroot, item, hitem, hsame⟩
  · exact queryName_ne_rootPlan_name field "Entities" (hsame.symm.trans hname.symm)
  · exact entitiesRoot_ne_classOfStem stem hsame
  · exact h.root root hroot item hitem ((String.append_left_inj _).mp (hname.trans hsame)).symm

/-- With such names, that of the fragment on a type is free at the turn of the type. -/
lemma EntityNamesApart.key_free
    (h : EntityNamesApart ctx roots (earlier ++ t :: later))
    (hreturned : .endlessFragments ∉ (History.after ctx (roots.map .root)).failures)
    (hnew : t.name ∉ earlier.map (·.name)) {taken : List String}
    (hrun : emitEntityFragments ctx taken earlier
      (withEntitiesRoot ctx (History.after ctx (roots.map .root)).state) = .ok (methods, o) st') :
    clientName ctx (keyPlan t.name).name ∉ st'.registry.names := by
  have ht : t ∈ earlier ++ t :: later := List.mem_append_right _ List.mem_cons_self
  obtain ⟨hdotless, hplain⟩ := h.plain t ht
  have hname : Dotless (keyPlan t.name).name :=
    (((by decide : Dotless "Entities").append hdotless.capitalized).append (by decide)).append
      (by decide)
  have hsound := sound_emitEntityFragments hrun
  have hinner := inner_of_emitEntityFragments h.types hrun
  intro hgiven
  rcases (hsound.accounts.mem_iff _).mp hgiven with hmade | hbefore
  · -- given out by one of the types before
    rcases cases_of_mem_names h.schema hsound.belongs hinner.types hname hmade with
      ⟨q, hq, _⟩ | ⟨c, hc, hsame⟩
    · rw [hinner.queries] at hq
      cases hq
    · rcases cases_of_emitEntityFragments hrun hc with hbelow | ⟨_, u, hu, _, hkey⟩
      · obtain ⟨stem, hstem, hclass⟩ := hbelow.name
        exact keyPlan_name_ne hplain hstem (hsame.symm.trans hclass)
      · have hcapital := capitalized_of_keyPlan_name (hsame.symm.trans hkey)
        have hsameType := h.distinct t ht u (List.mem_append_left _ hu) hcapital
        exact hnew (hsameType ▸ List.mem_map_of_mem hu)
  · rcases List.mem_cons.mp hbefore with hroot | hbefore
    · exact entitiesRoot_ne_classOfStem _ (clientName_injective ctx hroot).symm
    · -- given out by one of the root types
      have hmade := ((History.consistent_after ctx _).mem_names_iff hreturned).mp hbefore
      rcases cases_of_root_names h.schema h.types hname hmade with
        ⟨field, hsame⟩ | ⟨stem, hstem, hsame⟩ | ⟨_, _, item, _, hsame⟩
      · exact queryName_ne_classOfStem field _ hsame.symm
      · exact keyPlan_name_ne hplain hstem hsame
      · exact rootPlan_name_ne_classOfStem item.2.name _ hsame.symm

/-! ## The entities of a context -/

/-- After any root types, the entities have all their classes exactly if each name that they need is
free at its turn. The call comes back if the walks over the entity types end. Where the names of the
schema leave room for the entities, and all root types have come back, nothing is missing. -/
theorem entity_fragments_have_classes (ctx : Context) (roots definitions : List TypeDef)
    (hskip : ctx.config.skipEntities = false) (hkeyed : keyedTypes ctx definitions ≠ []) :
    let before := History.after ctx (roots.map .root)
    let keyed := keyedTypes ctx definitions
    ((∀ t ∈ keyed, Ends ctx (.start t.name none)) →
        ∃ o st', generateEntities ctx definitions before.state = .ok o st')
      ∧ ∀ o st', generateEntities ctx definitions before.state = .ok o st' →
          (o.ServesEntities keyed ↔ EntityNamesFree ctx roots keyed)
            ∧ (EntityNamesApart ctx roots keyed → .endlessFragments ∉ before.failures →
                o.ServesEntities keyed) := by
  intro before keyed
  refine ⟨fun hends => ?_, fun o st' h => ?_⟩
  · have hstarts : (Call.entities definitions).starts ctx
        = keyed.map fun t => .start t.name none := by
      show (if ctx.config.skipEntities then [] else _) = _
      rw [hskip, if_neg Bool.false_ne_true]
    refine (tame_generateEntities ctx definitions).succeeds (fun p hp => ?_) before.state
    rw [hstarts] at hp
    obtain ⟨t, ht, rfl⟩ := List.mem_map.mp hp
    exact hends t ht
  · have hiff : o.ServesEntities keyed ↔ EntityNamesFree ctx roots keyed :=
      servesEntities_iff_free hskip hkeyed h
    refine ⟨hiff, fun hapart hreturned => hiff.mpr ?_⟩
    have hfree := hapart.root_free hreturned
    refine ⟨hfree, fun earlier t later hsplit hnew => ?_⟩
    obtain ⟨hnone, _⟩ | ⟨_, methods, fragments, hrun, _⟩ := generateEntities_cases h
    · rcases hnone with hskipped | hempty | hgiven
      · rw [hskip] at hskipped; cases hskipped
      · exact absurd hempty hkeyed
      · exact absurd hgiven hfree
    · obtain ⟨first, made, mid, hfirst, hmem⟩ := exists_turn_after hskip hfree hsplit hrun
      rw [hmem]
      exact EntityNamesApart.key_free (hsplit ▸ hapart) hreturned hnew hfirst

/-- The setting of a root field for a film, and two entity types, with nothing configured. -/
def keyedFilms : Context where
  schema :=
    { types := [queryType (plainField "film" "Film"), keyedType "Film", keyedType "Star"] }

/-- The names of the example leave room for the entities. -/
theorem entity_fragments_have_classes_keyedFilms :
    ∃ o st', generateEntities keyedFilms [keyedType "Film", keyedType "Star"]
        (History.after keyedFilms [.root (queryType (plainField "film" "Film"))]).state
        = .ok o st'
      ∧ o.ServesEntities [keyedType "Film", keyedType "Star"] := by
  have hends : ∀ c : Call, ∀ p ∈ c.starts keyedFilms, Ends keyedFilms p := fun c =>
    Call.walks_end (by decide) (by decide) c
  have hreturned : .endlessFragments
      ∉ (History.after keyedFilms [.root (queryType (plainField "film" "Film"))]).failures :=
    History.endless_not_mem_failures fun c _ => hends c
  have hapart : EntityNamesApart keyedFilms [queryType (plainField "film" "Film")]
      [keyedType "Film", keyedType "Star"] :=
    ⟨by decide, ⟨by decide, fun _ _ hexample => by cases hexample⟩, by decide, by decide,
      by decide⟩
  obtain ⟨hback, hserves⟩ := entity_fragments_have_classes keyedFilms
    [queryType (plainField "film" "Film")] [keyedType "Film", keyedType "Star"] rfl (by decide)
  obtain ⟨o, st', ho⟩ := hback fun t ht =>
    hends (.entities [keyedType "Film", keyedType "Star"]) _ (List.mem_map_of_mem ht)
  exact ⟨o, st', ho, (hserves o st' ho).2 hapart hreturned⟩

/-- The setting of two entity types whose names agree up to the case of the first letter, with
nothing configured. -/
def filmTwice : Context where
  schema := { types := [keyedType "Film", keyedType "film"] }

/-- The method for the second type returns the fragment on the first one. -/
theorem filmTwice_lacks_fragment :
    ∃ o st', generateEntities filmTwice [keyedType "Film", keyedType "film"]
        (History.after filmTwice []).state = .ok o st'
      ∧ ¬ o.ServesEntities [keyedType "Film", keyedType "film"] := by
  obtain ⟨o, st', ho⟩ :=
    (tame_generateEntities filmTwice [keyedType "Film", keyedType "film"]).succeeds
      (Call.walks_end (by decide) (by decide) _) (History.after filmTwice []).state
  refine ⟨o, st', ho, fun hserves => ?_⟩
  have hkeyed : keyedTypes filmTwice [keyedType "Film", keyedType "film"] ≠ [] := by decide
  have hiff : o.ServesEntities [keyedType "Film", keyedType "film"]
      ↔ EntityNamesFree filmTwice [] [keyedType "Film", keyedType "film"] :=
    servesEntities_iff_free rfl hkeyed ho
  have hnames := hiff.mp hserves
  have hfilm := hnames.key [keyedType "Film"] (keyedType "film") [] rfl (by decide)
  obtain ⟨hnone, _⟩ | ⟨hfree, methods, fragments, hrun, _⟩ := generateEntities_cases ho
  · exact absurd hnone (by decide)
  · have hsplit : keyedTypes filmTwice [keyedType "Film", keyedType "film"]
        = [keyedType "Film"] ++ keyedType "film" :: [] := rfl
    obtain ⟨first, before, mid, hfirst, hmem⟩ := exists_turn_after rfl hfree hsplit hrun
    obtain ⟨made, grown, others, more, hmade, hmore, _, _⟩ := emitEntityFragments_cons hfirst
    obtain ⟨_, _, rfl⟩ := emitEntityFragments_nil hmore
    -- both types have fragments of the same name
    have hsame : (keyPlan "film").name = (keyPlan "Film").name := by decide
    refine hfilm (hmem.mpr ?_)
    show clientName filmTwice (keyPlan "film").name ∈ _
    rw [hsame]
    exact (name_of_emitTree (.inr rfl) hmade).1

end ClientGen
