import ClientGen.Proofs.Options.Agreement

/-!
# The same classes under other names

Two runs with different flags make the same classes, one by one, up to their names. A class names
itself, its parent, its root, and the classes that its methods return; wherever it names a class of
the one run, its counterpart names the counterpart of that class.

* `ProjectionClass.renamed` replaces all these names.
* `Output.Alike` says that two outputs are the same up to a renaming, whatever renaming takes the
  names of the one to those of the other.
* `alike_of_emits` is the induction over the two walks, and `alike_emitTree` what it comes to for a
  whole tree.
-/

namespace ClientGen

open ClientGen.Projection

/-! ## Renamed classes -/

/-- The method with another name for the class that it returns. -/
def Method.renamed (ρ : String → String) (m : Method) : Method :=
  { m with returns := ρ m.returns }

/-- The class with other names for itself and for the classes that it speaks of. -/
def ProjectionClass.renamed (ρ : String → String) (c : ProjectionClass) : ProjectionClass :=
  { c with
    name := ρ c.name
    parent? := c.parent?.map ρ
    root? := c.root?.map ρ
    methods := c.methods.map (·.renamed ρ) }

lemma ProjectionClass.renamed_id (c : ProjectionClass) : c.renamed id = c := by
  have hmethods : c.methods.map (·.renamed id) = c.methods := List.map_id _
  simp only [renamed, hmethods, Option.map_id, id]

variable {ctx : Context} {short types : Bool} {operation? : Option String}

/-! ## Outputs -/

/-- Both outputs have the same query classes, and as many projections. A renaming that is right
about the classes outside and takes the names of the projections to those of their counterparts,
takes the projections themselves to their counterparts. -/
structure Output.Alike (ctx : Context) (short types : Bool) (outside : (String → String) → Prop)
    (a b : Output) : Prop where
  queries : b.queries = a.queries
  count : b.projections.length = a.projections.length
  renamed : ∀ ρ, outside ρ → b.projections.map (·.name) = a.projections.map (fun c => ρ c.name) →
    b.projections = a.projections.map (·.renamed ρ)
  names : short = ctx.config.shortNames →
    b.projections.map (·.name) = a.projections.map (·.name)
  dataTypes : types = ctx.config.dataTypes → b.dataTypes = a.dataTypes

namespace Output.Alike

variable {outside : (String → String) → Prop} {a b more more' : Output}

/-- Without projections there is nothing to be renamed. -/
lemma of_none (hqueries : b.queries = a.queries) (ha : a.projections = [])
    (hb : b.projections = []) (htypes : types = ctx.config.dataTypes → b.dataTypes = a.dataTypes) :
    Alike ctx short types outside a b := by
  refine ⟨hqueries, ?_, fun _ _ _ => ?_, fun _ => ?_, htypes⟩
  · rw [ha, hb]
  · rw [ha, hb, List.map_nil]
  · rw [ha, hb]

lemma empty : Alike ctx short types outside ∅ ∅ := of_none rfl rfl rfl fun _ => rfl

/-- A renaming that is right about the names of two outputs put together is right about those of
each. -/
lemma names_of_append (h : Alike ctx short types outside a b) {ρ : String → String}
    (hnames : (b ++ more').projections.map (·.name)
      = (a ++ more).projections.map (fun c => ρ c.name)) :
    b.projections.map (·.name) = a.projections.map (fun c => ρ c.name)
      ∧ more'.projections.map (·.name) = more.projections.map (fun c => ρ c.name) := by
  rw [projections_append, projections_append, List.map_append, List.map_append] at hnames
  refine List.append_inj hnames ?_
  rw [List.length_map, List.length_map, h.count]

lemma append (h : Alike ctx short types outside a b)
    (h' : Alike ctx short types outside more more') :
    Alike ctx short types outside (a ++ more) (b ++ more') := by
  refine ⟨?_, ?_, fun ρ houtside hnames => ?_, fun flag => ?_, fun flag => ?_⟩
  · show b.queries ++ more'.queries = a.queries ++ more.queries
    rw [h.queries, h'.queries]
  · rw [projections_append, projections_append, List.length_append, List.length_append, h.count,
      h'.count]
  · obtain ⟨hfirst, hrest⟩ := h.names_of_append hnames
    rw [projections_append, projections_append, List.map_append, h.renamed ρ houtside hfirst,
      h'.renamed ρ houtside hrest]
  · rw [projections_append, projections_append, List.map_append, List.map_append, h.names flag,
      h'.names flag]
  · show b.dataTypes ++ more'.dataTypes = a.dataTypes ++ more.dataTypes
    rw [h.dataTypes flag, h'.dataTypes flag]

end Output.Alike

/-- The data types of two runs, each of which has them or not. -/
lemma alike_of_run (hnames : ctx.schema.Dotless) {st st' mid mid' : RunState}
    (hagree : Agree ctx short types st st') {package : String} {stack : List Wanted}
    {a b : Output} (haway : package ≠ ctx.config.clientNamespace)
    (h : DataTypes.run ctx package stack st = .ok a mid)
    (h' : DataTypes.run (ctx.withFlags short types) package stack st' = .ok b mid')
    (outside : (String → String) → Prop) :
    a.Alike ctx short types outside b ∧ Agree ctx short types mid mid' := by
  obtain ⟨hinner, hnone⟩ := inner_of_run haway h
  have haway' : package ≠ (ctx.withFlags short types).config.clientNamespace := haway
  obtain ⟨hinner', hnone'⟩ := inner_of_run haway' h'
  refine ⟨.of_none ?_ hnone hnone' fun flag => ?_, agree_of_run hnames hagree haway h h'⟩
  · rw [hinner.queries, hinner'.queries]
  · rw [run_withFlags hnames hagree flag haway h h']

namespace Projection

variable {st st' mid mid' : RunState}

/-! ## Classes -/

section

variable (hnames : ctx.schema.Dotless) (hagree : Agree ctx short types st st')

include hnames hagree

lemma alike_of_argumentTypes (hapart : ctx.TypesApart) {arguments : List InputValue} {a b : Output}
    (h : argumentTypes ctx arguments st = .ok a mid)
    (h' : argumentTypes (ctx.withFlags short types) arguments st' = .ok b mid')
    (outside : (String → String) → Prop) :
    a.Alike ctx short types outside b ∧ Agree ctx short types mid mid' :=
  alike_of_run hnames hagree hapart.shared h h' outside

lemma alike_of_ownTypes
    (haway : DataTypes.operationPackage ctx.config operation? ≠ ctx.config.clientNamespace)
    {head : Head} {a b : Output} (h : ownTypes ctx operation? head st = .ok a mid)
    (h' : ownTypes (ctx.withFlags short types) operation? head st' = .ok b mid')
    (outside : (String → String) → Prop) :
    a.Alike ctx short types outside b ∧ Agree ctx short types mid mid' := by
  unfold ownTypes at h h'
  cases hkind : head.type.kind with
  | object | interface =>
    rw [hkind] at h h'
    exact alike_of_run hnames hagree haway h h' outside
  | union | enum | scalar | input =>
    rw [hkind] at h h'
    obtain ⟨rfl, rfl⟩ := Run.pure_eq_ok.mp h
    obtain ⟨rfl, rfl⟩ := Run.pure_eq_ok.mp h'
    exact ⟨.empty, hagree⟩

end

/-- A renaming is right about two classes and their roots. -/
def Frame.Renames (frame frame' : Frame) (ρ : String → String) : Prop :=
  frame'.className = ρ frame.className ∧ frame'.rootClass? = frame.rootClass?.map ρ

/-- Two classes go on in the same way: they reach their roots alike, and if both runs shorten names
or neither does, their stems are the same. -/
structure Frame.Alike (ctx : Context) (short : Bool) (frame frame' : Frame) : Prop where
  access : frame'.access = frame.access
  stem : short = ctx.config.shortNames → frame'.childStem = frame.childStem
  dotless : Dotless frame.childStem
  dotless' : Dotless frame'.childStem

/-- The members of two classes are the same up to a renaming. -/
structure Members.Alike (ctx : Context) (short types : Bool) (outside : (String → String) → Prop)
    (members members' : Members) : Prop where
  methods : ∀ ρ, outside ρ →
    members'.below.projections.map (·.name)
        = members.below.projections.map (fun c => ρ c.name) →
      members'.methods = members.methods.map (·.renamed ρ)
  imports : members'.imports = members.imports
  below : members.below.Alike ctx short types outside members'.below
  arguments : members.arguments.Alike ctx short types outside members'.arguments

namespace Members.Alike

variable {outside : (String → String) → Prop} {members members' : Members}

lemma nothing : Alike ctx short types outside {} {} :=
  ⟨fun _ _ _ => rfl, rfl, .empty, .empty⟩

/-- One more method, with what it brings. -/
lemma cons {m m' : Method} {imports : List String} {child child' arguments arguments' : Output}
    (hmethod : ∀ ρ, outside ρ →
      child'.projections.map (·.name) = child.projections.map (fun c => ρ c.name) →
        m' = m.renamed ρ)
    (hchild : child.Alike ctx short types outside child')
    (harguments : arguments.Alike ctx short types outside arguments')
    (h : members.Alike ctx short types outside members') :
    (members.cons m imports child arguments).Alike ctx short types outside
      (members'.cons m' imports child' arguments') := by
  refine ⟨fun ρ houtside hbelow => ?_, ?_, hchild.append h.below, harguments.append h.arguments⟩
  · obtain ⟨hfirst, hrest⟩ := hchild.names_of_append hbelow
    show m' :: members'.methods = m.renamed ρ :: members.methods.map (·.renamed ρ)
    rw [hmethod ρ houtside hfirst, h.methods ρ houtside hrest]
  · show imports ++ members'.imports = imports ++ members.imports
    rw [h.imports]

end Members.Alike

/-- Two classes of one kind that are about to be made, in places of which a renaming may be
right. -/
structure ClassPlan.Alike (ctx : Context) (short : Bool) (outside : (String → String) → Prop)
    (plan plan' : ClassPlan) : Prop where
  base : plan'.base = plan.base
  includeTypename : plan'.includeTypename = plan.includeTypename
  parent : ∀ ρ, outside ρ → plan'.parent? = plan.parent?.map ρ
  root : ∀ ρ, outside ρ → plan'.root? = plan.root?.map ρ
  name : short = ctx.config.shortNames → plan'.name = plan.name

/-- A renaming that is right about the places of two classes, and about their names, is right about
what their members need to know. -/
lemma ClassPlan.Alike.renames {plan plan' : ClassPlan} {outside : (String → String) → Prop}
    (h : plan.Alike ctx short outside plan') {ρ : String → String} (houtside : outside ρ)
    (hname : plan'.name = ρ plan.name) (stem stem' : String) :
    (plan.frame stem).Renames (plan'.frame stem') ρ := by
  refine ⟨hname, ?_⟩
  show plan'.rootClass? = plan.rootClass?.map ρ
  unfold ClassPlan.rootClass?
  rw [h.base]
  cases plan.base with
  | root => rw [hname]; rfl
  | sub | fragment => exact h.root ρ houtside

/-- A renaming that is right about the members of two classes takes the one class to the other. -/
lemma ClassPlan.Alike.made {plan plan' : ClassPlan} {outside : (String → String) → Prop}
    (h : plan.Alike ctx short outside plan') (head : Head) {members members' : Members}
    {ρ : String → String} (houtside : outside ρ) (hname : plan'.name = ρ plan.name)
    (hmethods : members'.methods = members.methods.map (·.renamed ρ))
    (himports : members'.imports = members.imports) :
    plan'.made (ctx.withFlags short types) head members'
      = (plan.made ctx head members).renamed ρ := by
  have hroot : plan'.rootClass? = plan.rootClass?.map ρ :=
    (h.renames houtside hname plan.stem plan'.stem).2
  unfold ClassPlan.made ProjectionClass.renamed
  simp only [hroot, hname, hmethods, himports, h.base, h.includeTypename, h.parent ρ houtside]
  rfl

/-- Two classes with all that comes with them. -/
lemma alike_output (hnames : ctx.schema.Dotless)
    (haway : DataTypes.operationPackage ctx.config operation? ≠ ctx.config.clientNamespace)
    {plan plan' : ClassPlan} {outside : (String → String) → Prop} {head : Head}
    {stem stem' : String} {members members' : Members} {own own' : Output}
    (hplan : plan.Alike ctx short outside plan')
    (hmembers : members.Alike ctx short types ((plan.frame stem).Renames (plan'.frame stem'))
      members')
    (hagree : Agree ctx short types st st')
    (hown : ownTypes ctx operation? head st = .ok own mid)
    (hown' : ownTypes (ctx.withFlags short types) operation? head st' = .ok own' mid') :
    (plan.output ctx head members own).Alike ctx short types outside
        (plan'.output (ctx.withFlags short types) head members' own')
      ∧ Agree ctx short types mid mid' := by
  obtain ⟨htypes, hlast⟩ := alike_of_ownTypes hnames hagree haway hown hown'
    ((plan.frame stem).Renames (plan'.frame stem'))
  refine ⟨?_, hlast⟩
  -- the class itself comes first, and then what stands below it and the data types
  have hrest := hmembers.below.append (htypes.append hmembers.arguments)
  unfold ClassPlan.output
  rw [Output.append_assoc, Output.append_assoc, Output.append_assoc, Output.append_assoc]
  refine ⟨hrest.queries, congrArg Nat.succ hrest.count, fun ρ houtside hnames => ?_, fun flag => ?_,
    hrest.dataTypes⟩
  · obtain ⟨hname, hnames⟩ := List.cons.inj hnames
    have hrenames := hplan.renames houtside hname stem stem'
    obtain ⟨hbelow, _⟩ := hmembers.below.names_of_append hnames
    have hmade : plan'.made (ctx.withFlags short types) head members'
        = (plan.made ctx head members).renamed ρ :=
      hplan.made head houtside hname (hmembers.methods ρ hrenames hbelow) hmembers.imports
    exact congrArg₂ List.cons hmade (hrest.renamed ρ hrenames hnames)
  · exact congrArg₂ List.cons (hplan.name flag) (hrest.names flag)

/-! ## Trees -/

/-- The method for a field returns the counterpart of what it returned. -/
lemma fieldMethod_withFlags {name returns returns' : String} {action action' : MethodAction}
    {f : Field} {ρ : String → String} (hreturns : returns' = ρ returns)
    (haction : action' = action) :
    Frame.fieldMethod (ctx.withFlags short types) name returns' action' f
      = (Frame.fieldMethod ctx name returns action f).renamed ρ := by
  unfold Frame.fieldMethod Method.renamed
  rw [parameters_withFlags, hreturns, haction]

/-- The method for a fragment returns the counterpart of what it returned. -/
lemma fragmentMethod_renamed {frame frame' : Frame} (haccess : frame'.access = frame.access)
    {name type stem stem' : String} {ρ : String → String}
    (hreturns : classOfStem stem' = ρ (classOfStem stem)) :
    frame'.fragmentMethod name type stem' = (frame.fragmentMethod name type stem).renamed ρ := by
  unfold Frame.fragmentMethod Method.renamed
  rw [haccess, hreturns]

/-- Two stems that have been claimed: if both runs shorten names or neither does, they are the
same. -/
structure Claimed (ctx : Context) (short : Bool) (stem stem' : String) : Prop where
  same : short = ctx.config.shortNames → stem' = stem
  dotless : Dotless stem
  dotless' : Dotless stem'

lemma claimed_freeStem {frame frame' : Frame} (hframe : frame.Alike ctx short frame')
    (hagree : Agree ctx short types st st') {segment stem stem' : String}
    (hsegment : Dotless segment)
    (h : stem = freeStem ctx st.registry (frame.childStem ++ "_" ++ segment))
    (h' : stem'
      = freeStem (ctx.withFlags short types) st'.registry (frame'.childStem ++ "_" ++ segment)) :
    Claimed ctx short stem stem' := by
  have hbefore : Dotless (frame.childStem ++ "_" ++ segment) :=
    (hframe.dotless.append (by decide)).append hsegment
  have hbefore' : Dotless (frame'.childStem ++ "_" ++ segment) :=
    (hframe.dotless'.append (by decide)).append hsegment
  refine ⟨fun flag => ?_, h ▸ dotless_freeStem hbefore _, h' ▸ dotless_freeStem hbefore' _⟩
  rw [h, h', hframe.stem flag, freeStem_withFlags hagree flag hbefore]

/-- The classes of a field of two classes. -/
lemma alike_subPlan {stem stem' : String} (h : Claimed ctx short stem stem')
    (frame frame' : Frame) :
    (frame.subPlan stem).Alike ctx short (frame.Renames frame') (frame'.subPlan stem') where
  base := rfl
  includeTypename := rfl
  parent := fun _ hrenames => congrArg some hrenames.1
  root := fun _ hrenames => hrenames.2
  name := fun flag => congrArg classOfStem (h.same flag)

/-- The classes of a fragment of two classes. -/
lemma alike_fragmentPlan {stem stem' : String} (h : Claimed ctx short stem stem')
    (frame frame' : Frame) :
    (frame.fragmentPlan stem).Alike ctx short (frame.Renames frame')
      (frame'.fragmentPlan stem') where
  base := rfl
  includeTypename := rfl
  parent := fun _ hrenames => congrArg some hrenames.1
  root := fun _ hrenames => hrenames.2
  name := fun flag => congrArg classOfStem (h.same flag)

/-- Two classes that are opened go on in the same way. -/
lemma alike_of_opens {plan plan' : ClassPlan} {outside : (String → String) → Prop}
    {childStem childStem' : String} (hplan : plan.Alike ctx short outside plan')
    (hclaimed : Claimed ctx short plan.stem plan'.stem)
    (hname : plan'.name = plan.name
      ∨ plan.name = classOfStem plan.stem ∧ plan'.name = classOfStem plan'.stem)
    (hagree : Agree ctx short types st st') (hopens : Opens ctx plan childStem st mid)
    (hopens' : Opens (ctx.withFlags short types) plan' childStem' st' mid') :
    (plan.frame childStem).Alike ctx short (plan'.frame childStem')
      ∧ Agree ctx short types mid mid' := by
  have hcount : plan'.name = plan.name
      ∨ short ≠ ctx.config.shortNames ∧ plan.name = classOfStem plan.stem
        ∧ plan'.name = classOfStem plan'.stem := by
    by_cases flag : short = ctx.config.shortNames
    · exact .inl (hplan.name flag)
    · exact hname.imp_right fun hstems => ⟨flag, hstems⟩
  obtain ⟨hready, hstems⟩ := agree_of_opens hagree hopens hopens' hplan.base hcount hclaimed.same
    hclaimed.dotless hclaimed.dotless'
  refine ⟨⟨?_, hstems, ?_, ?_⟩, hready⟩
  · show plan'.access = plan.access
    unfold ClassPlan.access
    rw [hplan.base]
  · exact (dotless_of_opens hopens hclaimed.dotless hagree.dotless).1
  · exact (dotless_of_opens hopens' hclaimed.dotless' hagree.dotless').1

/-- What two walks make of the same tree is the same up to a renaming, and leaves the two runs in
agreement. -/
theorem alike_of_emits (hnames : ctx.schema.Dotless) (hapart : ctx.TypesApart)
    (haway : DataTypes.operationPackage ctx.config operation? ≠ ctx.config.clientNamespace)
    {frame frame' : Frame} {taken : List String} {body : Body} {members members' : Members}
    (h : Emits ctx operation? frame taken body st members mid)
    (h' : Emits (ctx.withFlags short types) operation? frame' taken body st' members' mid')
    {p : Position} {trail : List String} (hfollows : body.Follows ctx p trail)
    (hframe : frame.Alike ctx short frame') (hagree : Agree ctx short types st st') :
    members.Alike ctx short types (frame.Renames frame') members'
      ∧ Agree ctx short types mid mid' := by
  -- both walks go over one tree, so each step of the first is met by one step of the second
  induction h generalizing frame' members' st' mid' p trail with
  | done =>
    cases h'
    exact ⟨.nothing, hagree⟩
  | @leaf frame _ _ _ _ _ _ _ _ harguments hrest ih =>
    cases h' with
    | leaf harguments' hrest' =>
      obtain ⟨htypes, hmid⟩ :=
        alike_of_argumentTypes hnames hagree hapart harguments harguments' (frame.Renames frame')
      obtain ⟨hmembers, hlast⟩ := ih hrest' hfollows.2.2 hframe hmid
      refine ⟨.cons (fun ρ hrenames _ => ?_) .empty htypes hmembers, hlast⟩
      exact fieldMethod_withFlags hrenames.1 rfl
  | @branch frame _ _ _ _ _ _ _ _ _ _ _ _ _ _ _ _ _ harguments hclaim hopens hbelow hown hrest
      ihBelow ihRest =>
    cases h' with
    | branch harguments' hclaim' hopens' hbelow' hown' hrest' =>
      obtain ⟨hleads, _, rfl, hfollows⟩ := hfollows
      have hfield := hnames.field (mem_fieldsOf_of_mem_fieldsAt hleads.chosen)
      obtain ⟨htypes, hclaimed⟩ :=
        alike_of_argumentTypes hnames hagree hapart harguments harguments' (frame.Renames frame')
      have hstems := claimed_freeStem hframe hclaimed hfield.capitalized hclaim hclaim'
      have hplan := alike_subPlan hstems frame frame'
      obtain ⟨hchildFrame, hready⟩ :=
        alike_of_opens hplan hstems (.inr ⟨rfl, rfl⟩) hclaimed hopens hopens'
      obtain ⟨hinner, hfilled⟩ := ihBelow hbelow' (Body.follows_grow ctx _ _) hchildFrame hready
      obtain ⟨hchild, hclosed⟩ := alike_output hnames haway hplan hinner hfilled hown hown'
      obtain ⟨hmembers, hlast⟩ := ihRest hrest' hfollows hframe hclosed
      refine ⟨.cons (fun ρ _ hchildNames => ?_) hchild htypes hmembers, hlast⟩
      -- the method returns the first of the classes below
      refine fieldMethod_withFlags (List.cons.inj hchildNames).1 ?_
      rw [hframe.access]
  | @fragment frame _ _ _ _ _ _ _ _ _ _ _ _ _ _ hclaim hopens hbelow hown hrest ihBelow ihRest =>
    cases h' with
    | fragment hclaim' hopens' hbelow' hown' hrest' =>
      obtain ⟨hnarrows, _, rfl, hfollows⟩ := hfollows
      have htype := hnames.type (mem_types_of_mem_narrowingsAt hnarrows)
      have hstems := claimed_freeStem hframe hagree htype.capitalized hclaim hclaim'
      have hplan := alike_fragmentPlan hstems frame frame'
      obtain ⟨hchildFrame, hready⟩ :=
        alike_of_opens hplan hstems (.inr ⟨rfl, rfl⟩) hagree hopens hopens'
      obtain ⟨hinner, hfilled⟩ := ihBelow hbelow' (Body.follows_grow ctx _ _) hchildFrame hready
      obtain ⟨hchild, hclosed⟩ := alike_output hnames haway hplan hinner hfilled hown hown'
      obtain ⟨hmembers, hlast⟩ := ihRest hrest' hfollows hframe hclosed
      refine ⟨.cons (fun ρ _ hchildNames => ?_) hchild .empty hmembers, hlast⟩
      exact fragmentMethod_renamed hframe.access (List.cons.inj hchildNames).1

/-- Both runs make the tree of a root field, or both pass it over. -/
theorem alike_emitTree (hnames : ctx.schema.Dotless) (hapart : ctx.TypesApart)
    (haway : DataTypes.operationPackage ctx.config operation? ≠ ctx.config.clientNamespace)
    {field : String} (hfield : Dotless field) {t : TypeDef} {selection? : Option Selection}
    {a b : Output} (hagree : Agree ctx short types st st')
    (h : emitTree ctx operation? (rootPlan field) t selection? st = .ok a mid)
    (h' : emitTree (ctx.withFlags short types) operation? (rootPlan field) t selection? st'
      = .ok b mid') :
    a.Alike ctx short types (fun _ => True) b ∧ Agree ctx short types mid mid' := by
  -- the name of a root class counts, so it is free in both runs or in neither
  have hroot := hagree.names (clientName ctx (rootPlan field).name) (.root ⟨field, hfield, rfl⟩)
  rcases emitTree_cases h with ⟨hgiven, rfl, rfl⟩ | hmade
  · rcases emitTree_cases h' with ⟨_, rfl, rfl⟩ | ⟨_, _, _, _, _, hopens', _⟩
    · exact ⟨.empty, hagree⟩
    · exact (hopens'.free (hroot.mpr hgiven)).elim
  · obtain ⟨stem, ready, members, filled, own, hopens, hemits, hown, rfl⟩ := hmade
    rcases emitTree_cases h' with ⟨hgiven, _⟩ | hmade'
    · exact (hopens.free (hroot.mp hgiven)).elim
    · obtain ⟨stem', ready', members', filled', own', hopens', hemits', hown', rfl⟩ := hmade'
      have hplan : (rootPlan field).Alike ctx short (fun _ => True) (rootPlan field) :=
        ⟨rfl, rfl, fun _ _ => rfl, fun _ _ => rfl, fun _ => rfl⟩
      have hstems : Claimed ctx short (rootPlan field).stem (rootPlan field).stem :=
        ⟨fun _ => rfl, hfield.capitalized, hfield.capitalized⟩
      obtain ⟨hframe, hready⟩ := alike_of_opens hplan hstems (.inl rfl) hagree hopens hopens'
      rw [Body.grow_withFlags] at hemits'
      obtain ⟨hmembers, hfilled⟩ := alike_of_emits hnames hapart haway hemits hemits'
        (Body.follows_grow ctx _ _) hframe hready
      exact alike_output hnames haway hplan hmembers hfilled hown hown'

end Projection

end ClientGen
