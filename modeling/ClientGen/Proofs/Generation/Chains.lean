import ClientGen.Proofs.Emission.Returned

/-!
# Chains of classes

From a projection class its parents lead up to the start of its tree: a root, or the fragment on
an entity type. What the walk knew when the class was made can be read off this chain: how many
fields it had descended, the edges that it had passed, and what the example selected.

* `IsChain` and the functions after it are the reading, from the classes of an output alone.
* `placed_below` and `placed_inside` say that it agrees with the position of the walk, step by
  step.
* `explained_of_emits` carries this over a whole tree.
-/

namespace ClientGen

open ClientGen.Projection

/-! ## Reading a chain -/

namespace ProjectionClass

/-- The class is the first one of a tree. -/
def startsTree (c : ProjectionClass) : Bool :=
  c.base = .root || c.isKeyFragment

/-- How the methods of the class reach the root. -/
def access (c : ProjectionClass) : RootAccess :=
  if c.base = .root then .itself else .lookup

end ProjectionClass

/-- A class of an output with its parent, the parent of that, and so on to the start of the
tree. -/
inductive IsChain (o : Output) : List ProjectionClass → Prop where
  | start {c : ProjectionClass} (hc : c ∈ o.projections) (hstart : c.startsTree = true) :
      IsChain o [c]
  | step {c parent : ProjectionClass} {up : List ProjectionClass} (hc : c ∈ o.projections)
      (hnot : c.startsTree = false) (hparent : c.parent? = some parent.name)
      (hup : IsChain o (parent :: up)) : IsChain o (c :: parent :: up)

/-- The number of classes below fields. -/
def depthOf (chain : List ProjectionClass) : Nat :=
  (chain.filter (·.base = .sub)).length

/-- The edges from a class below a field to its parent, each once. -/
def edgesOf : List ProjectionClass → List (String × String)
  | c :: parent :: up =>
    if c.base = .sub then (edgesOf (parent :: up)).insert (c.schemaType, parent.schemaType)
    else edgesOf (parent :: up)
  | _ => []

/-- The fields of a root type that have something to be selected, each with the root type. -/
def itemsOf (ctx : Context) (root : TypeDef) (fs : List Field) : List (TypeDef × Field) :=
  (fs.filter fun f => (ctx.schema.findSelectable? f.typeName).isSome).map fun f => (root, f)

lemma itemsOf_cons (ctx : Context) (root : TypeDef) (f : Field) (fs : List Field) :
    itemsOf ctx root (f :: fs) = itemsOf ctx root [f] ++ itemsOf ctx root fs := by
  unfold itemsOf
  rw [← List.map_append, ← List.filter_append]
  rfl

lemma itemsOf_of_none {ctx : Context} {f : Field}
    (h : ctx.schema.findSelectable? f.typeName = none) (root : TypeDef) :
    itemsOf ctx root [f] = [] := by
  unfold itemsOf
  rw [List.filter_cons_of_neg (by rw [h]; decide)]
  rfl

lemma itemsOf_of_some {ctx : Context} {f : Field} {target : TypeDef}
    (h : ctx.schema.findSelectable? f.typeName = some target) (root : TypeDef) :
    itemsOf ctx root [f] = [(root, f)] := by
  unfold itemsOf
  rw [List.filter_cons_of_pos (by rw [h]; rfl)]
  rfl

/-- The root fields of a run that have something to be selected, in the order of generation. -/
def rootItems (ctx : Context) : List (TypeDef × Field) :=
  (rootTypes ctx.schema).flatMap fun root =>
    itemsOf ctx root (rootFields ctx (rootKind ctx root) root).fields

/-- The root field of a root class: the first one whose class has this name. -/
def rootItem? (ctx : Context) (className : String) : Option (TypeDef × Field) :=
  (rootItems ctx).find? fun item => (rootPlan item.2.name).name = className

/-- What the example selects at the start of a tree; nothing at an entity type. -/
def startSelection? (ctx : Context) (c : ProjectionClass) : Option Selection :=
  if c.base = .root then
    (rootItem? ctx c.name).bind fun item =>
      rootSelection? (ctx.example? (rootKind ctx item.1)) item.1.name item.2.name
  else none

/-- The method of the parent that returns a class. -/
def caller? (parent c : ProjectionClass) : Option Method :=
  (parent.methods.filter (·.isAccessor)).find? (·.returns = c.name)

/-- What the example selects at the first class of a chain, reached by the same fields and
fragments. -/
def selectionOf? (ctx : Context) : List ProjectionClass → Option Selection
  | [] => none
  | [c] => startSelection? ctx c
  | c :: parent :: up =>
    let above? := selectionOf? ctx (parent :: up)
    match (caller? parent c).map Method.action with
    | some (.descend field _) => Context.childSelection? above? parent.schemaType field
    | some (.narrow type _) => Context.fragmentSelection? above? type
    | _ => none

/-- Where the walk stands at the first class of a chain. -/
def positionOf (ctx : Context) (c : ProjectionClass) (up : List ProjectionClass) : Position where
  typeName := c.schemaType
  selection? := selectionOf? ctx (c :: up)
  edges := edgesOf (c :: up)
  depth := depthOf (c :: up)

/-! ## Uniqueness -/

lemma IsChain.mem {o : Output} {c : ProjectionClass} {up : List ProjectionClass}
    (h : IsChain o (c :: up)) : c ∈ o.projections := by
  cases h with
  | start hc _ => exact hc
  | step hc _ _ _ => exact hc

/-- There is only one way up. -/
lemma IsChain.unique {ctx : Context} {o : Output} (hb : o.Balanced ctx) {c : ProjectionClass}
    {up up' : List ProjectionClass} (h : IsChain o (c :: up)) (h' : IsChain o (c :: up')) :
    up = up' := by
  induction up generalizing c up' with
  | nil =>
    cases h with
    | start _ hstart =>
      cases h' with
      | start => rfl
      | step _ hnot _ _ => rw [hstart] at hnot; cases hnot
  | cons parent up ih =>
    cases h with
    | step _ hnot hparent hup =>
      cases h' with
      | start _ hstart => rw [hnot] at hstart; cases hstart
      | @step _ parent' up' _ _ hparent' hup' =>
        -- the parent is known by its name, which no other class has
        have hname : parent'.name = parent.name :=
          Option.some.inj (hparent'.symm.trans hparent)
        have hfirst := filter_eq_singleton hb.nodup hup.mem
        have hsecond := filter_eq_singleton hb.nodup hup'.mem
        rw [hname, hfirst] at hsecond
        obtain rfl := (List.cons.inj hsecond).1
        rw [ih hup hup']

/-! ## One step up -/

/-- A chain that has been read agrees with a position of the walk. -/
structure Placed (ctx : Context) (o : Output) (c : ProjectionClass) (up : List ProjectionClass)
    (p : Position) : Prop where
  chain : IsChain o (c :: up)
  position : positionOf ctx c up = p

section

variable {ctx : Context} {o : Output} {c d : ProjectionClass} {up : List ProjectionClass}
  {p : Position} {m : Method}

lemma caller?_eq_some (hb : o.Balanced ctx) (hc : c ∈ o.projections)
    (hnot : c.isFederationRoot ctx = false) (hm : m ∈ c.methods) (haccessor : m.isAccessor = true)
    (hreturns : m.returns = d.name) : caller? c d = some m := by
  -- the accessors of one class are some of those of the output
  have hnodup : ((c.methods.filter (·.isAccessor)).map (·.returns)).Nodup := by
    have hall := hb.nodup_accessors
    unfold Output.accessors at hall
    rw [List.map_flatMap] at hall
    have hown := (List.nodup_flatMap.mp hall).1 c (List.mem_filter.mpr ⟨hc, by rw [hnot]; rfl⟩)
    rw [List.map_map] at hown
    exact hown
  unfold caller?
  rw [← hreturns]
  exact find?_eq_some hnodup (List.mem_filter.mpr ⟨hm, haccessor⟩)

/-- A step to a field. -/
lemma placed_below (hb : o.Balanced ctx) (hplaced : Placed ctx o c up p)
    (hnot : c.isFederationRoot ctx = false) (hm : m ∈ c.methods) {f : Field} {access : RootAccess}
    (haction : m.action = .descend f.name access) (hd : d ∈ o.projections)
    (hreturns : m.returns = d.name) (hbase : d.base = .sub) (hparent : d.parent? = some c.name)
    {target : TypeDef} (htype : d.schemaType = target.name) :
    Placed ctx o d (c :: up) (p.below f target) := by
  have haccessor : m.isAccessor = true := by rw [Method.isAccessor, haction]
  have hcaller := caller?_eq_some hb hplaced.chain.mem hnot hm haccessor hreturns
  have hstart : d.startsTree = false := by
    rw [ProjectionClass.startsTree, ProjectionClass.isKeyFragment, hbase]
    rfl
  refine ⟨.step hd hstart hparent hplaced.chain, ?_⟩
  obtain rfl := hplaced.position
  -- what the walk remembers changes as it does on the way down
  have hselection : selectionOf? ctx (d :: c :: up)
      = Context.childSelection? (selectionOf? ctx (c :: up)) c.schemaType f.name := by
    rw [selectionOf?, hcaller, Option.map_some, haction]
  have hedges : edgesOf (d :: c :: up)
      = (edgesOf (c :: up)).insert (d.schemaType, c.schemaType) := by
    rw [edgesOf, if_pos hbase]
  have hdepth : depthOf (d :: c :: up) = depthOf (c :: up) + 1 := by
    rw [depthOf, List.filter_cons_of_pos (by rw [hbase]; rfl)]
    rfl
  rw [positionOf, hselection, hedges, hdepth, htype]
  rfl

/-- A step into a fragment. -/
lemma placed_inside (hb : o.Balanced ctx) (hplaced : Placed ctx o c up p)
    (hnot : c.isFederationRoot ctx = false) (hm : m ∈ c.methods) {target : TypeDef}
    {access : RootAccess} (haction : m.action = .narrow target.name access)
    (hd : d ∈ o.projections) (hreturns : m.returns = d.name) (hbase : d.base = .fragment)
    (htypename : d.includeTypename = true) (hparent : d.parent? = some c.name)
    (htype : d.schemaType = target.name) : Placed ctx o d (c :: up) (p.inside target) := by
  have haccessor : m.isAccessor = true := by rw [Method.isAccessor, haction]
  have hcaller := caller?_eq_some hb hplaced.chain.mem hnot hm haccessor hreturns
  have hstart : d.startsTree = false := by
    rw [ProjectionClass.startsTree, ProjectionClass.isKeyFragment, hbase, htypename]
    rfl
  have hsub : ¬ d.base = .sub := by rw [hbase]; decide
  refine ⟨.step hd hstart hparent hplaced.chain, ?_⟩
  obtain rfl := hplaced.position
  -- a fragment passes no edge and is no deeper
  have hselection : selectionOf? ctx (d :: c :: up)
      = Context.fragmentSelection? (selectionOf? ctx (c :: up)) target.name := by
    rw [selectionOf?, hcaller, Option.map_some, haction]
  have hedges : edgesOf (d :: c :: up) = edgesOf (c :: up) := by
    rw [edgesOf, if_neg hsub]
  have hdepth : depthOf (d :: c :: up) = depthOf (c :: up) := by
    rw [depthOf, List.filter_cons_of_neg (by simpa using hsub)]
    rfl
  rw [positionOf, hselection, hedges, hdepth, htype]
  rfl

end

end ClientGen
