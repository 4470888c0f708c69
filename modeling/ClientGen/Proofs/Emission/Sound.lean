import ClientGen.Proofs.Emission.Links
import ClientGen.Proofs.Generation.Steps

/-!
# Sound parts of runs

A part of a run is sound if it registers exactly the names of what comes out of it, if what comes
out belongs to the context, and if the methods that come out return the classes that come out, each
once. All of it is kept when outputs are put together, so it is proved for the trees and then
carried to whole calls.

* `sound_emitTree` is the base: a tree with all its classes.
* `Call.sound` covers every call on a context.
-/

namespace ClientGen

/-! ## What belongs to a context -/

/-- The class is in the package of the client; and all fragments but those on entity types ask for
the name of the type. -/
structure ProjectionClass.Belongs (ctx : Context) (c : ProjectionClass) : Prop where
  package : c.package = ctx.config.clientNamespace
  fragment : c.base = .fragment → c.includeTypename = true ∨ c.isKeyFragment = true

/-- The projections belong to the context, and the unions are types of the schema. -/
structure Output.Belongs (ctx : Context) (o : Output) : Prop where
  classes : ∀ c ∈ o.projections, c.Belongs ctx
  unions : o.KnowsUnions ctx

namespace Output.Belongs

variable {ctx : Context} {a b : Output}

lemma empty (ctx : Context) : Belongs ctx ∅ :=
  ⟨fun _ hc => absurd hc List.not_mem_nil, knowsUnions_empty ctx⟩

lemma append (ha : a.Belongs ctx) (hb : b.Belongs ctx) : (a ++ b).Belongs ctx := by
  refine ⟨fun c hc => ?_, ha.unions.append hb.unions⟩
  rcases List.mem_append.mp hc with hc | hc
  · exact ha.classes c hc
  · exact hb.classes c hc

/-- Without unions only the classes are to be looked at. -/
lemma of_classes (hnone : a.unions = []) (h : ∀ c ∈ a.projections, c.Belongs ctx) :
    a.Belongs ctx := by
  refine ⟨h, fun u hu => ?_⟩
  rw [hnone] at hu
  cases hu

lemma of_types {r r' : Naming.Registry} (h : BringsTypes ctx r a r') : a.Belongs ctx := by
  refine ⟨fun c hc => ?_, h.unions⟩
  rw [h.projections] at hc
  cases hc

end Output.Belongs

namespace Projection

variable {ctx : Context} {operation? : Option String}

/-! ## Accounts of trees -/

/-- What the members of a class have brought is what has been registered in between. -/
def Members.Accounted (st : RunState) (members : Members) (st' : RunState) : Prop :=
  ∀ n, st'.registry.names.count n
    = members.below.names.count n + members.arguments.names.count n
      + st.registry.names.count n

/-- The account of a class with all that comes with it. -/
lemma accounts_output {plan : ClassPlan} {head : Head} {childStem : String} {members : Members}
    {own : Output} {st ready filled st' : RunState}
    (hopens : Opens ctx plan childStem st ready) (hmembers : members.Accounted ready filled)
    (hown : BringsTypes ctx filled.registry own st'.registry) :
    Accounts st.registry (plan.output ctx head members own) st'.registry := by
  have hclass : Accounts st.registry
      { projections := [plan.made ctx head members], warnings := head.warnings }
      ready.registry :=
    .register hopens.registered rfl
  intro n
  have hfirst := hclass n
  have hsecond := hmembers n
  have hthird := hown.accounts n
  unfold ClassPlan.output
  simp only [Output.count_names_append]
  omega

/-- One more method, with what it brings. -/
lemma accounted_cons {members : Members} {m : Method} {imports : List String}
    {child arguments : Output} {st claimed closed st' : RunState}
    (harguments : Accounts st.registry arguments claimed.registry)
    (hchild : Accounts claimed.registry child closed.registry)
    (h : members.Accounted closed st') :
    (members.cons m imports child arguments).Accounted st st' := by
  intro n
  have hfirst := harguments n
  have hsecond := hchild n
  have hthird := h n
  show _ = (child ++ members.below).names.count n
    + (arguments ++ members.arguments).names.count n + _
  rw [Output.count_names_append, Output.count_names_append]
  omega

theorem accounted_of_emits {frame : Frame} {taken : List String} {body : Body}
    {members : Members} {st st' : RunState}
    (h : Emits ctx operation? frame taken body st members st') : members.Accounted st st' := by
  induction h with
  | done => intro n; rw [Nat.add_comm]; rfl
  | leaf hargs _ ih =>
    exact accounted_cons (bringsTypes_of_argumentTypes hargs).accounts (.empty _) ih
  | branch hargs _ hopens _ hown _ ihBelow ihRest =>
    exact accounted_cons (bringsTypes_of_argumentTypes hargs).accounts
      (accounts_output hopens ihBelow (bringsTypes_of_ownTypes hown)) ihRest
  | fragment _ hopens _ hown _ ihBelow ihRest =>
    exact accounted_cons (.empty _)
      (accounts_output hopens ihBelow (bringsTypes_of_ownTypes hown)) ihRest

/-! ## What trees are made of -/

/-- A class below a field, or of a fragment in a tree. -/
lemma belongs_made {plan : ClassPlan} (h : plan.base = .fragment → plan.includeTypename = true)
    (head : Head) (members : Members) : (plan.made ctx head members).Belongs ctx :=
  ⟨rfl, fun hbase => .inl (h hbase)⟩

lemma belongs_output {plan : ClassPlan} {head : Head} {members : Members} {own : Output}
    (hmade : (plan.made ctx head members).Belongs ctx) (hbelow : members.below.Belongs ctx)
    (hown : own.Belongs ctx) (harguments : members.arguments.Belongs ctx) :
    (plan.output ctx head members own).Belongs ctx := by
  have hclass : Output.Belongs ctx
      { projections := [plan.made ctx head members], warnings := head.warnings } := by
    apply Output.Belongs.of_classes rfl
    intro c hc
    obtain rfl := List.mem_singleton.mp hc
    exact hmade
  exact ((hclass.append hbelow).append hown).append harguments

/-- What the members of a class have brought belongs to the context. -/
structure Members.Belong (ctx : Context) (members : Members) : Prop where
  below : members.below.Belongs ctx
  arguments : members.arguments.Belongs ctx

lemma belong_cons {members : Members} {m : Method} {imports : List String}
    {child arguments : Output} (harguments : arguments.Belongs ctx) (hchild : child.Belongs ctx)
    (h : members.Belong ctx) : (members.cons m imports child arguments).Belong ctx :=
  ⟨hchild.append h.below, harguments.append h.arguments⟩

lemma belong_of_emits {frame : Frame} {taken : List String} {body : Body} {members : Members}
    {st st' : RunState} (h : Emits ctx operation? frame taken body st members st') :
    members.Belong ctx := by
  induction h with
  | done => exact ⟨.empty ctx, .empty ctx⟩
  | leaf hargs _ ih =>
    exact belong_cons (.of_types (bringsTypes_of_argumentTypes hargs)) (.empty ctx) ih
  | branch hargs _ _ _ hown _ ihBelow ihRest =>
    apply belong_cons (.of_types (bringsTypes_of_argumentTypes hargs)) ?_ ihRest
    exact belongs_output (belongs_made (fun hfragment => by cases hfragment) _ _) ihBelow.below
      (.of_types (bringsTypes_of_ownTypes hown)) ihBelow.arguments
  | fragment _ _ _ hown _ ihBelow ihRest =>
    apply belong_cons (.empty ctx) ?_ ihRest
    exact belongs_output (belongs_made (fun _ => rfl) _ _) ihBelow.below
      (.of_types (bringsTypes_of_ownTypes hown)) ihBelow.arguments

end Projection

open ClientGen.Projection

/-! ## Soundness -/

/-- Exactly the names of an output have been registered, it belongs to the context, and its
methods call exactly for those of its classes that a method has to return. -/
structure Sound (ctx : Context) (st : RunState) (o : Output) (st' : RunState) : Prop where
  accounts : Accounts st.registry o st'.registry
  belongs : o.Belongs ctx
  links : ∀ l, (arrivals o.projections).count l = (calls ctx o.projections).count l

namespace Sound

variable {ctx : Context} {st mid st' : RunState} {a b : Output}

lemma empty (st : RunState) : Sound ctx st ∅ st :=
  ⟨.empty _, .empty ctx, fun _ => rfl⟩

lemma append (h : Sound ctx st a mid) (h' : Sound ctx mid b st') : Sound ctx st (a ++ b) st' := by
  refine ⟨h.accounts.append h'.accounts, h.belongs.append h'.belongs, fun l => ?_⟩
  rw [Output.projections_append, arrivals_append, calls_append, List.count_append,
    List.count_append, h.links l, h'.links l]

/-- Data types have no methods. -/
lemma of_types (h : BringsTypes ctx st.registry a st'.registry) : Sound ctx st a st' := by
  refine ⟨h.accounts, .of_types h, fun l => ?_⟩
  rw [h.projections]
  rfl

lemma warnings (ws : List ExcludedSelection) (st : RunState) :
    Sound ctx st { warnings := ws } st :=
  ⟨Accounts.empty st.registry, .of_classes rfl fun _ hc => absurd hc List.not_mem_nil,
    fun _ => rfl⟩

/-- A query class, whose name has just been given out. -/
lemma query {r : Naming.Registry} (q : QueryClass)
    (h : st.registry.register? (q.package ++ "." ++ q.name) = some r) :
    Sound ctx st { queries := [q] } { st with registry := r } :=
  ⟨.register h rfl, .of_classes rfl fun _ hc => absurd hc List.not_mem_nil, fun _ => rfl⟩

end Sound

/-! ## Trees and root fields -/

/-- The plan of the first class of a tree over a type, which no method of a tree returns. -/
def Projection.ClassPlan.StartsTree (plan : ClassPlan) (t : TypeDef) : Prop :=
  plan.base = .root ∨ plan = keyPlan t.name

variable {ctx : Context} {operation? : Option String} {st st' : RunState} {o : Output}

private lemma arrival?_of_startsTree {plan : ClassPlan} {t : TypeDef} (h : plan.StartsTree t)
    (head : Head) (members : Members) : (plan.made ctx head members).arrival? = none := by
  unfold ProjectionClass.arrival?
  apply if_neg
  show ¬ (plan.base = .sub ∨ plan.base = .fragment ∧ plan.includeTypename = true)
  rcases h with hbase | rfl
  · rw [hbase]
    rintro (hsub | ⟨hfragment, _⟩)
    · cases hsub
    · cases hfragment
  · rintro (hsub | ⟨_, htypename⟩)
    · cases hsub
    · cases htypename

lemma isKeyFragment_made (t : TypeDef) (selection? : Option Selection) (members : Members) :
    ((keyPlan t.name).made ctx (headAt ctx t selection?) members).isKeyFragment = true := by
  simp [ProjectionClass.isKeyFragment, ClassPlan.made, ClassPlan.rootClass?, keyPlan, headAt]

private lemma belongs_of_startsTree {plan : ClassPlan} {t : TypeDef} (h : plan.StartsTree t)
    (selection? : Option Selection) (members : Members) :
    (plan.made ctx (headAt ctx t selection?) members).Belongs ctx := by
  rcases h with hroot | rfl
  · apply belongs_made
    intro hfragment
    rw [hroot] at hfragment
    cases hfragment
  · exact ⟨rfl, fun _ => .inr (isKeyFragment_made t selection? members)⟩

theorem sound_emitTree {plan : ClassPlan} {t : TypeDef} (hplan : plan.StartsTree t)
    {selection? : Option Selection}
    (h : emitTree ctx operation? plan t selection? st = .ok o st') : Sound ctx st o st' := by
  rcases emitTree_cases h with ⟨_, rfl, rfl⟩ | h
  · exact .empty _
  · obtain ⟨stem, ready, members, filled, own, hopens, hemits, hown, rfl⟩ := h
    have hlinked : members.Linked ctx (plan.made ctx (headAt ctx t selection?) members) :=
      linked_of_emits hemits (Body.follows_grow ctx _ _) (isOf_made plan stem members rfl)
    have htypes := bringsTypes_of_ownTypes hown
    have hmembers := belong_of_emits hemits
    have hmade : (plan.made ctx (headAt ctx t selection?) members).Belongs ctx :=
      belongs_of_startsTree hplan selection? members
    refine ⟨accounts_output hopens (accounted_of_emits hemits) htypes,
      belongs_output hmade hmembers.below (.of_types htypes) hmembers.arguments, fun l => ?_⟩
    -- the first class itself is no class that a method of the tree has to return
    rw [count_arrivals_output htypes.projections (arguments_of_emits hemits) hlinked l,
      arrival?_of_startsTree hplan, Option.toList_none, List.count_nil, Nat.zero_add]

lemma sound_types {package : String} {stack : List Wanted}
    (h : DataTypes.run ctx package stack st = .ok o st') : Sound ctx st o st' :=
  .of_types (DataTypes.bringsTypes_of_run h)

lemma sound_emitQuery {kind : Document.OperationKind} {f : Field}
    (h : emitQuery ctx kind f st = .ok o st') : Sound ctx st o st' := by
  rcases emitQuery_cases h with ⟨_, rfl, rfl⟩ | ⟨hfree, types, htypes, rfl⟩
  · exact .empty _
  · have hquery := Naming.Registry.register?_eq_some.mpr ⟨hfree, rfl⟩
    exact (Sound.query (queryClass ctx kind f) hquery).append (sound_types htypes)

lemma sound_emitRootProjection {root : TypeDef} {example? : Option ExampleOperation} {f : Field}
    (h : emitRootProjection ctx root example? f st = .ok o st') : Sound ctx st o st' := by
  rcases emitRootProjection_cases h with ⟨_, rfl, rfl⟩ | ⟨target, _, htree⟩
  · exact .empty _
  · exact sound_emitTree (.inl rfl) htree

lemma sound_emitRootFields {kind : Document.OperationKind} {root : TypeDef} {fs : List Field}
    (h : emitRootFields ctx kind root fs st = .ok o st') : Sound ctx st o st' := by
  induction fs generalizing st o st' with
  | nil =>
    obtain ⟨rfl, rfl⟩ := Run.pure_eq_ok.mp h
    exact .empty _
  | cons f fs ih =>
    obtain ⟨query, asked, projection, grown, more, hquery, hprojection, hmore, rfl⟩ :=
      emitRootFields_cons h
    exact ((sound_emitQuery hquery).append (sound_emitRootProjection hprojection)).append (ih hmore)

theorem sound_generateRoot {root : TypeDef} (h : generateRoot ctx root st = .ok o st') :
    Sound ctx st o st' := by
  obtain ⟨_, made, hmade, rfl⟩ := generateRoot_of_ok h
  exact (Sound.warnings _ st).append (sound_emitRootFields hmade)

/-! ## Entities -/

lemma sound_emitEntityFragments {taken : List String} {ts : List TypeDef} {methods : List Method}
    (h : emitEntityFragments ctx taken ts st = .ok (methods, o) st') : Sound ctx st o st' := by
  induction ts generalizing taken methods st o st' with
  | nil =>
    obtain ⟨_, rfl, rfl⟩ := emitEntityFragments_nil h
    exact .empty _
  | cons t ts ih =>
    obtain ⟨made, grown, others, more, hmade, hmore, _, rfl⟩ := emitEntityFragments_cons h
    exact (sound_emitTree (.inr rfl) hmade).append (ih hmore)

/-- The federation root returns the key fragments, which are not accounted for as links. -/
lemma sound_entitiesClass (methods : List Method) (hfree : clientName ctx entitiesRoot
      ∉ st.registry.names) :
    Sound ctx st { projections := [entitiesClass ctx methods] }
      { st with registry := ⟨clientName ctx entitiesRoot :: st.registry.names⟩ } := by
  have hregister := Naming.Registry.register?_eq_some.mpr ⟨hfree, rfl⟩
  have hbelongs : Output.Belongs ctx { projections := [entitiesClass ctx methods] } := by
    apply Output.Belongs.of_classes rfl
    intro c hc
    obtain rfl := List.mem_singleton.mp hc
    exact ⟨rfl, fun hfragment => by cases hfragment⟩
  refine ⟨.register hregister rfl, hbelongs, fun l => ?_⟩
  -- its own methods are not counted among the calls
  have hroot : (entitiesClass ctx methods).isFederationRoot ctx = true := decide_eq_true rfl
  have hcalls : calls ctx [entitiesClass ctx methods] = [] := by
    unfold calls
    rw [List.filter_cons_of_neg (by rw [hroot]; decide)]
    rfl
  show _ = (calls ctx [entitiesClass ctx methods]).count l
  rw [hcalls]
  rfl

theorem sound_generateEntities {definitions : List TypeDef}
    (h : generateEntities ctx definitions st = .ok o st') : Sound ctx st o st' := by
  rcases generateEntities_cases h with ⟨_, rfl, rfl⟩ | ⟨hfree, methods, fragments, hfragments, rfl⟩
  · exact .empty _
  · exact (sound_entitiesClass methods hfree).append (sound_emitEntityFragments hfragments)

/-! ## Calls -/

theorem Call.sound {c : Call} (h : c.run ctx st = .ok o st') : Sound ctx st o st' := by
  cases c with
  | root type => exact sound_generateRoot h
  | entities definitions => exact sound_generateEntities h
  | dataType type selection? package? => exact sound_types h
  | referenced typeName package? => exact sound_types h

end ClientGen
