import ClientGen.Proofs.Generation.Trees

/-!
# The methods of every class of a run

Which methods a projection class has depends on where the walk was when the class was made. After
a run that place can be read off the classes themselves: the parents of a class lead up to the
start of its tree in exactly one way, and the chain tells the depth, the edges and the selection.

* `explained_of_generate` says that the reading is right at every class of a run.
* `methods_follow_chain` is what it comes to: the methods of a class, in order, from its chain.
-/

namespace ClientGen

open ClientGen.Projection

/-! ## What a chain calls for -/

/-- The method for a field of a class. There is none where the field leads on but the depth is used
up, or where the edge to its type is on the chain. -/
def fieldAction? (ctx : Context) (c : ProjectionClass) (up : List ProjectionClass) (f : Field) :
    Option MethodAction :=
  match ctx.schema.findSelectable? f.typeName with
  | none => some (.select f.name)
  | some _ =>
    if ctx.config.mayDescend (depthOf (c :: up))
        && !(edgesOf (c :: up)).contains (f.typeName, c.schemaType) then
      some (.descend f.name c.access)
    else none

/-- The methods of a class, from its chain: first those of the fields that are selected, then one
for each concrete type. -/
def actionsOf (ctx : Context) (c : ProjectionClass) (up : List ProjectionClass) :
    List MethodAction :=
  let fields := ctx.config.selectFields c.schemaType (ctx.schema.fieldsOf c.schemaType)
    (selectionOf? ctx (c :: up)) false
  let types := ctx.config.selectConcreteTypes (concreteTypesOf ctx c.schemaType)
    (selectionOf? ctx (c :: up))
  fields.fields.filterMap (fieldAction? ctx c up)
    ++ types.map fun t => .narrow t.name c.access

variable {ctx : Context} {o : Output} {st st' : RunState}

/-- A type of the schema is found by its name. -/
lemma exists_findType? {name : String} (h : ∃ t ∈ ctx.schema.types, t.name = name) :
    ∃ t, ctx.schema.findType? name = some t := by
  obtain ⟨u, hu, hname⟩ := h
  cases hfind : ctx.schema.findType? name with
  | some t => exact ⟨t, rfl⟩
  | none => exact absurd hname (by simpa using List.find?_eq_none.mp hfind u hu)

/-- What a chain calls for is what the position that it tells calls for. -/
lemma actions_positionOf {c : ProjectionClass} (up : List ProjectionClass)
    (hknown : ∃ t ∈ ctx.schema.types, t.name = c.schemaType) :
    (Body.entriesAt ctx (positionOf ctx c up)).map (Body.Entry.action c.access)
      = actionsOf ctx c up := by
  obtain ⟨t, ht⟩ := exists_findType? hknown
  have hfields : fieldsAt ctx (positionOf ctx c up)
      = (ctx.config.selectFields c.schemaType (ctx.schema.fieldsOf c.schemaType)
          (selectionOf? ctx (c :: up)) false).fields := by
    unfold fieldsAt
    show (match ctx.schema.findType? c.schemaType with | none => [] | some t => _) = _
    rw [ht, ← Schema.findType?_name ht]
    rfl
  have hnarrowings : narrowingsAt ctx (positionOf ctx c up)
      = ctx.config.selectConcreteTypes (concreteTypesOf ctx c.schemaType)
          (selectionOf? ctx (c :: up)) := by
    unfold narrowingsAt concreteTypesOf
    show (match ctx.schema.findType? c.schemaType with | none => [] | some t => _) = _
    rw [ht]
    rfl
  have hentry : ∀ f, (Body.entryFor? ctx (positionOf ctx c up) f).map
      (Body.Entry.action c.access) = fieldAction? ctx c up f := by
    intro f
    unfold Body.entryFor? fieldAction?
    cases hfind : ctx.schema.findSelectable? f.typeName with
    | none => rfl
    | some target =>
      have hpass : mayPass ctx (positionOf ctx c up) target
          = (ctx.config.mayDescend (depthOf (c :: up))
            && !(edgesOf (c :: up)).contains (f.typeName, c.schemaType)) := by
        unfold mayPass
        rw [← Schema.findType?_name (Schema.findSelectable?_eq_some hfind), List.contains_eq_mem,
          decide_not]
        rfl
      simp only [hpass]
      split
      · rfl
      · rfl
  -- the fields come first, and then the concrete types
  unfold Body.entriesAt actionsOf
  rw [hfields, hnarrowings, List.map_append, List.map_filterMap, List.map_map]
  simp only [hentry]
  rfl

/-! ## Entities -/

/-- The class stands in the tree of an entity type, and the output has the whole tree. -/
def InKeyTree (ctx : Context) (ts : List TypeDef) (made : Output) (d : ProjectionClass) : Prop :=
  ∃ t ∈ ts, ∃ tree st st', emitTree ctx none (keyPlan t.name) t none st = .ok tree st'
    ∧ d ∈ tree.projections ∧ ∀ e ∈ tree.projections, e ∈ made.projections

lemma inKeyTree_of_emitEntityFragments {taken : List String} {ts : List TypeDef}
    {methods : List Method} (h : emitEntityFragments ctx taken ts st = .ok (methods, o) st') :
    ∀ d ∈ o.projections, InKeyTree ctx ts o d := by
  induction ts generalizing taken methods st o st' with
  | nil =>
    obtain ⟨_, rfl, _⟩ := emitEntityFragments_nil h
    intro d hd
    cases hd
  | cons t ts ih =>
    obtain ⟨made, grown, others, more, hmade, hmore, _, rfl⟩ := emitEntityFragments_cons h
    intro d hd
    rcases List.mem_append.mp hd with hd | hd
    · exact ⟨t, List.mem_cons_self, made, st, grown, hmade, hd,
        fun e he => List.mem_append_left _ he⟩
    · obtain ⟨u, hu, tree, before, after, htree, hd, hsub⟩ := ih hmore d hd
      exact ⟨u, List.mem_cons_of_mem _ hu, tree, before, after, htree, hd,
        fun e he => List.mem_append_right _ (hsub e he)⟩

/-- The projections of the entities are the federation root and the trees of the entity types. -/
lemma inKeyTree_of_generateEntities {definitions : List TypeDef}
    (h : generateEntities ctx definitions st = .ok o st') :
    ∀ d ∈ o.projections, d.isFederationRoot ctx = true ∨ InKeyTree ctx definitions o d := by
  rcases generateEntities_cases h with ⟨_, rfl, _⟩ | ⟨_, methods, fragments, hfragments, rfl⟩
  · intro d hd
    cases hd
  · intro d hd
    rcases List.mem_append.mp hd with hd | hd
    · obtain rfl := List.mem_singleton.mp hd
      exact .inl (decide_eq_true rfl)
    · obtain ⟨t, ht, tree, before, after, htree, hd, hsub⟩ :=
        inKeyTree_of_emitEntityFragments hfragments d hd
      exact .inr ⟨t, (List.mem_filter.mp ht).1, tree, before, after, htree, hd,
        fun e he => List.mem_append_right _ (hsub e he)⟩

/-! ## Whole runs -/

/-- A class that starts a tree is placed where the walk over that tree starts. -/
lemma placed_start {t : TypeDef} {c : ProjectionClass} {selection? : Option Selection}
    (hc : c ∈ o.projections) (hstarts : c.startsTree = true) (htype : c.schemaType = t.name)
    (hselection : startSelection? ctx c = selection?) :
    Placed ctx o c [] (.start t.name selection?) := by
  have hsub : ¬ c.base = .sub := by
    intro hbase
    rw [ProjectionClass.startsTree, ProjectionClass.isKeyFragment, hbase] at hstarts
    simp at hstarts
  have hdepth : depthOf [c] = 0 := by
    rw [depthOf, List.filter_cons_of_neg (by simpa using hsub)]
    rfl
  refine ⟨.start hc hstarts, ?_⟩
  rw [positionOf, selectionOf?, hselection, hdepth, htype]
  rfl

/-- The first class of the tree of a root field is placed at the start of that tree. -/
lemma placed_root {item : TypeDef × Field} {t : TypeDef} {c : ProjectionClass}
    (hc : c ∈ o.projections) (hbase : c.base = .root)
    (htype : c.schemaType = t.name) (hitem : rootItem? ctx c.name = some item) :
    Placed ctx o c []
      (.start t.name
        (rootSelection? (ctx.example? (rootKind ctx item.1)) item.1.name item.2.name)) := by
  apply placed_start hc ?_ htype ?_
  · rw [ProjectionClass.startsTree, hbase]
    rfl
  · rw [startSelection?, if_pos hbase, hitem, Option.bind_some]

/-- The fragment on an entity type is placed at the start of its tree, without a selection. -/
lemma placed_key {t : TypeDef} {c : ProjectionClass} (hc : c ∈ o.projections)
    (hbase : c.base = .fragment) (hkey : c.isKeyFragment = true)
    (htype : c.schemaType = t.name) : Placed ctx o c [] (.start t.name none) := by
  apply placed_start hc ?_ htype ?_
  · rw [ProjectionClass.startsTree, hkey, Bool.or_true]
  · rw [startSelection?, if_neg (by rw [hbase]; decide)]

/-- The root field of a root class is the first one with its name. -/
lemma rootItem?_of_first {item : TypeDef × Field} {before after : List (TypeDef × Field)}
    (hitems : rootItems ctx = before ++ item :: after)
    (hfirst : ∀ other ∈ before, rootName ctx other ≠ rootName ctx item) :
    rootItem? ctx (rootPlan item.2.name).name = some item := by
  apply List.find?_eq_some_iff_append.mpr
  refine ⟨decide_eq_true rfl, before, after, hitems, ?_⟩
  intro other hother
  -- no earlier root field has a class of this name
  have hne := hfirst other hother
  simpa using fun hname => hne (congrArg (clientName ctx) hname)

/-- Every class of a run but the federation root is explained by its chain. -/
theorem explained_of_generate (h : generate ctx = .ok o) {c : ProjectionClass}
    (hc : c ∈ o.projections) (hnot : c.isFederationRoot ctx = false) : Explained ctx o c := by
  have hb := balanced_of_generate h
  obtain ⟨roots, mid, entities, st', hroots, hentities, rfl⟩ := exists_of_generate h
  rcases List.mem_append.mp hc with hc | hc
  · obtain ⟨before, item, after, hitems, _, hfirst, htree⟩ :=
      (plants_generateRoots hroots).grown c hc
    obtain ⟨target, tree, first, last, hfind, htree, hmem, hsub, _⟩ := htree
    have htarget := Schema.findType?_mem (Schema.findSelectable?_eq_some hfind)
    have hall : ∀ e ∈ tree.projections, e ∈ (roots ++ entities).projections :=
      fun e he => List.mem_append_left _ (hsub e he)
    have hitem := rootItem?_of_first hitems hfirst
    apply explained_of_emitTree hb htarget htree hall ?_ c hmem
    intro members hmade
    exact placed_root (hall _ hmade) rfl rfl hitem
  · rcases inKeyTree_of_generateEntities hentities c hc with hfederation | htree
    · rw [hnot] at hfederation
      cases hfederation
    · obtain ⟨t, ht, tree, first, last, htree, hmem, hsub⟩ := htree
      have hall : ∀ e ∈ tree.projections, e ∈ (roots ++ entities).projections :=
        fun e he => List.mem_append_right _ (hsub e he)
      apply explained_of_emitTree hb (List.mem_filter.mp ht).1 htree hall ?_ c hmem
      intro members hmade
      exact placed_key (hall _ hmade) rfl (isKeyFragment_made t none members) rfl

/-- In a run that succeeds, every projection but the federation root has exactly one way up to the
start of its tree, and its methods are, in order, those that this chain calls for. -/
theorem methods_follow_chain (h : generate ctx = .ok o) :
    ∀ c ∈ o.projections, c.isFederationRoot ctx = false →
      ∃ up, IsChain o (c :: up) ∧ (∀ other, IsChain o (c :: other) → other = up)
        ∧ c.methods.map (·.action) = actionsOf ctx c up := by
  intro c hc hnot
  obtain ⟨up, p, hplaced, hmethods, hknown⟩ := explained_of_generate h hc hnot
  obtain rfl := hplaced.position
  refine ⟨up, hplaced.chain, fun other hother => ?_, ?_⟩
  · exact hother.unique (balanced_of_generate h) hplaced.chain
  · rw [hmethods, actions_positionOf up hknown]

/-- A schema with a union below its query type, and with an entity type that refers to itself. -/
def films : Context where
  schema :=
    { types :=
        [queryType (plainField "find" "Media"),
         { name := "Media", kind := .union, members := ["Book", "Film"] },
         { name := "Book", kind := .object, fields := [plainField "title" "String"] },
         { name := "Film"
           kind := .object
           fields := [plainField "basedOn" "Book", plainField "sequel" "Film"]
           directives := [{ name := "key", arguments := [] }] }] }

/-- The run on the example succeeds, so its classes follow their chains. -/
theorem methods_follow_chain_films :
    ∃ o, generate films = .ok o
      ∧ ∀ c ∈ o.projections, c.isFederationRoot films = false →
        ∃ up, IsChain o (c :: up) ∧ (∀ other, IsChain o (c :: other) → other = up)
          ∧ c.methods.map (·.action) = actionsOf films c up := by
  have hknown : ∀ t ∈ rootTypes films.schema,
      unknownField? films.schema (rootFields films (rootKind films t) t).fields = none := by
    intro t ht
    obtain rfl := List.mem_singleton.mp ht
    rfl
  have hends : ∀ c ∈ generationCalls films, ∀ p ∈ c.starts films, Ends films p := by
    intro c _
    exact Call.walks_end (by decide) (by decide) c
  obtain ⟨o, ho⟩ := exists_generate hknown hends
  exact ⟨o, ho, methods_follow_chain ho⟩

end ClientGen
