import ClientGen.Proofs.Generation.Chains

/-!
# Classes explained by their chains

The methods of a class are those that the position of the walk calls for, and the position can be
read off the chain of the class. Both hold of every class of a tree, by induction over the
derivation: the chain of a class below a field or inside a fragment is that of its parent with one
more class, and the step of the walk is the step up the chain.

* `actions_of_emits` gives the methods of one class.
* `explained_of_emits` covers all classes below it.
-/

namespace ClientGen

open ClientGen.Projection

variable {ctx : Context} {operation? : Option String} {o : Output}

/-! ## One class -/

/-- What the methods of a class do is what the entries of its tree ask for. -/
lemma actions_of_emits {frame : Frame} {taken : List String} {body : Body} {members : Members}
    {st st' : RunState} (h : Emits ctx operation? frame taken body st members st') :
    members.methods.map (·.action) = body.entries.map (Body.Entry.action frame.access) := by
  induction h with
  | done => rfl
  | leaf _ _ ih => exact congrArg (_ :: ·) ih
  | branch _ _ _ _ _ _ _ ih => exact congrArg (_ :: ·) ih
  | fragment _ _ _ _ _ _ ih => exact congrArg (_ :: ·) ih

lemma access_made (plan : ClassPlan) (head : Head) (members : Members) :
    (plan.made ctx head members).access = plan.access := by
  unfold ProjectionClass.access ClassPlan.access
  show (if plan.base = .root then RootAccess.itself else .lookup) = _
  cases plan.base <;> rfl

/-- The methods of a class are those that its position calls for. -/
lemma actions_made {plan : ClassPlan} {head : Head} {stem : String} {members : Members}
    {p : Position} {trail : List String} {st st' : RunState}
    (h : Emits ctx operation? (plan.frame stem) Naming.projectionNames (Body.grow ctx p trail) st
      members st') :
    (plan.made ctx head members).methods.map (·.action)
      = (Body.entriesAt ctx p).map (Body.Entry.action (plan.made ctx head members).access) := by
  show members.methods.map (·.action) = _
  rw [actions_of_emits h, Body.entries_grow h.isWhole, access_made]
  rfl

/-! ## All classes of a tree -/

/-- The chain of a class agrees with a position of the walk, and the methods of the class are
those that the position calls for. -/
def Explained (ctx : Context) (o : Output) (c : ProjectionClass) : Prop :=
  ∃ up p, Placed ctx o c up p
    ∧ c.methods.map (·.action) = (Body.entriesAt ctx p).map (Body.Entry.action c.access)
    ∧ ∃ t ∈ ctx.schema.types, t.name = p.typeName

/-- A class that is placed is explained, together with the classes below it, if these are once it
is known that the output has them. -/
lemma explained_output {plan : ClassPlan} {head : Head} {stem : String} {inner : Members}
    {own : Output} {p : Position} {trail : List String} {up : List ProjectionClass}
    {st st' closed : RunState}
    (hinner : Emits ctx operation? (plan.frame stem) Naming.projectionNames
      (Body.grow ctx p trail) st inner st')
    (hown : ownTypes ctx operation? head st' = .ok own closed)
    (hplaced : Placed ctx o (plan.made ctx head inner) up p)
    (htype : ∃ t ∈ ctx.schema.types, t.name = p.typeName)
    (hall : ∀ d ∈ (plan.output ctx head inner own).projections, d ∈ o.projections)
    (hbelow : (∀ d ∈ inner.below.projections, d ∈ o.projections) →
      ∀ d ∈ inner.below.projections, Explained ctx o d) :
    ∀ d ∈ (plan.output ctx head inner own).projections, Explained ctx o d := by
  rw [projections_output plan head inner (bringsTypes_of_ownTypes hown).projections
    (arguments_of_emits hinner)] at hall ⊢
  intro d hd
  rcases List.mem_cons.mp hd with rfl | hd
  · exact ⟨up, p, hplaced, actions_made hinner, htype⟩
  · exact hbelow (fun d hd => hall d (List.mem_cons_of_mem _ hd)) d hd

lemma mem_output (ctx : Context) (plan : ClassPlan) (head : Head) (members : Members)
    (own : Output) :
    plan.made ctx head members ∈ (plan.output ctx head members own).projections := by
  unfold ClassPlan.output
  simp only [Output.projections_append]
  exact List.mem_append_left _ (List.mem_append_left _ (List.mem_append_left _ List.mem_cons_self))

/-- Where a class is placed, the classes below it are explained. -/
theorem explained_of_emits (hb : o.Balanced ctx) {frame : Frame} {taken : List String}
    {body : Body} {members : Members} {st st' : RunState}
    (h : Emits ctx operation? frame taken body st members st') {p : Position}
    {trail : List String} (hfollows : body.Follows ctx p trail) {c : ProjectionClass}
    {up : List ProjectionClass} (hframe : frame.IsOf p c) (hplaced : Placed ctx o c up p)
    (hnot : c.isFederationRoot ctx = false) (hmethods : ∀ m ∈ members.methods, m ∈ c.methods)
    (hbelow : ∀ d ∈ members.below.projections, d ∈ o.projections) :
    ∀ d ∈ members.below.projections, Explained ctx o d := by
  -- the chain is that of the class at hand, and grows by one class with each tree below it
  induction h generalizing p trail c up with
  | done => intro d hd; cases hd
  | leaf _ _ ih =>
    exact ih hfollows.2.2 hframe hplaced hnot
      (fun m hm => hmethods m (List.mem_cons_of_mem _ hm)) hbelow
  | @branch frame taken f target below rest stem childStem inner members arguments own _ _ _ _ _ _
      _ _ _ hinner hown _ ihBelow ihRest =>
    obtain ⟨hleads, _, rfl, hrest⟩ := hfollows
    have hchild : ∀ d ∈ ((frame.subPlan stem).output ctx target inner own).projections,
        d ∈ o.projections := fun d hd => hbelow d (List.mem_append_left _ hd)
    have hplacedBelow : Placed ctx o ((frame.subPlan stem).made ctx target inner) (c :: up)
        (p.below f target.type) :=
      placed_below hb hplaced hnot (hmethods _ List.mem_cons_self) rfl
        (hchild _ (mem_output ctx _ target inner own)) rfl rfl (congrArg some hframe.name.symm) rfl
    have htype := Schema.findType?_mem (Schema.findSelectable?_eq_some hleads.found)
    intro d hd
    rcases List.mem_append.mp hd with hd | hd
    · refine explained_output hinner hown hplacedBelow ⟨target.type, htype, rfl⟩ hchild ?_ d hd
      exact ihBelow (Body.follows_grow ctx _ _) (isOf_made _ childStem inner rfl) hplacedBelow
        (isFederationRoot_made _ target inner) (fun m hm => hm)
    · exact ihRest hrest hframe hplaced hnot
        (fun m hm => hmethods m (List.mem_cons_of_mem _ hm))
        (fun d hd => hbelow d (List.mem_append_right _ hd)) d hd
  | @fragment frame taken target below rest stem childStem inner members own _ _ _ _ _ _ _ hinner
      hown _ ihBelow ihRest =>
    obtain ⟨hnarrows, _, rfl, hrest⟩ := hfollows
    have hchild : ∀ d ∈ ((frame.fragmentPlan stem).output ctx target inner own).projections,
        d ∈ o.projections := fun d hd => hbelow d (List.mem_append_left _ hd)
    have hplacedInside : Placed ctx o ((frame.fragmentPlan stem).made ctx target inner) (c :: up)
        (p.inside target.type) :=
      placed_inside hb hplaced hnot (hmethods _ List.mem_cons_self) rfl
        (hchild _ (mem_output ctx _ target inner own)) rfl rfl rfl
        (congrArg some hframe.name.symm) rfl
    have htype := mem_types_of_mem_narrowingsAt hnarrows
    intro d hd
    rcases List.mem_append.mp hd with hd | hd
    · refine explained_output hinner hown hplacedInside ⟨target.type, htype, rfl⟩ hchild ?_ d hd
      exact ihBelow (Body.follows_grow ctx _ _) (isOf_made _ childStem inner rfl) hplacedInside
        (isFederationRoot_made _ target inner) (fun m hm => hm)
    · exact ihRest hrest hframe hplaced hnot
        (fun m hm => hmethods m (List.mem_cons_of_mem _ hm))
        (fun d hd => hbelow d (List.mem_append_right _ hd)) d hd

/-- All classes of a tree are explained, if its first class is placed where the walk starts. -/
theorem explained_of_emitTree (hb : o.Balanced ctx) {plan : ClassPlan} {t : TypeDef}
    (ht : t ∈ ctx.schema.types) {selection? : Option Selection} {made : Output}
    {st st' : RunState} (h : emitTree ctx operation? plan t selection? st = .ok made st')
    (hall : ∀ d ∈ made.projections, d ∈ o.projections)
    (hplaced : ∀ members, plan.made ctx (headAt ctx t selection?) members ∈ made.projections →
      Placed ctx o (plan.made ctx (headAt ctx t selection?) members) []
        (.start t.name selection?)) :
    ∀ d ∈ made.projections, Explained ctx o d := by
  rcases emitTree_cases h with ⟨_, rfl, rfl⟩ | h
  · intro d hd
    cases hd
  · obtain ⟨stem, ready, members, filled, own, _, hemits, hown, rfl⟩ := h
    have hstart : Placed ctx o (plan.made ctx (headAt ctx t selection?) members) []
        (.start t.name selection?) :=
      hplaced members (mem_output ctx plan _ members own)
    refine explained_output hemits hown hstart ⟨t, ht, rfl⟩ hall ?_
    exact explained_of_emits hb hemits (Body.follows_grow ctx _ _)
      (isOf_made plan stem members rfl) hstart (isFederationRoot_made plan _ members)
      (fun m hm => hm)

end ClientGen
