import ClientGen.Proofs.Emission.Covered

/-!
# Where data types come from

A data type comes out because it has been asked for: by a position, by an argument, or by a type
that has been asked for before it. Its package and its selection are those of the request, so what
holds of all requests holds of all data types that come out. Nothing is asked of the names here,
and it does not matter whether the configuration asks for data types at all.

* `Output.Requested` states it of an output.
* `requested_of_emits` is the induction over the walk, and `requested_emitTree` what it comes to for
  a whole tree.
-/

namespace ClientGen

open ClientGen.DataTypes

variable {ctx : Context} {demand : String → Wanted → Prop}

/-! ## Requested classes -/

/-- The class of a type that is in demand in the package of the class. -/
def DataClass.Requested (ctx : Context) (demand : String → Wanted → Prop) (d : DataClass) : Prop :=
  ∃ t selection?, ctx.schema.findType? d.name = some t ∧ IsClass ctx d.package t selection? d
    ∧ demand d.package ⟨d.name, selection?⟩

/-- A union of the schema that is in demand in its package. -/
def EmittedUnion.Requested (ctx : Context) (demand : String → Wanted → Prop) (u : EmittedUnion) :
    Prop :=
  ∃ t selection?, ctx.schema.findType? u.name = some t ∧ demand u.package ⟨u.name, selection?⟩

lemma DataClass.Covered.requested {r : Naming.Registry} {d : DataClass}
    (h : d.Covered ctx demand r) : d.Requested ctx demand := by
  obtain ⟨t, selection?, hfound, hclass, hdemand, _⟩ := h
  exact ⟨t, selection?, hfound, hclass, hdemand⟩

/-- All data types of an output are requested. -/
structure Output.Requested (ctx : Context) (demand : String → Wanted → Prop) (o : Output) :
    Prop where
  dataTypes : ∀ d ∈ o.dataTypes, d.Requested ctx demand
  unions : ∀ u ∈ o.unions, u.Requested ctx demand

namespace Output.Requested

variable {a b : Output}

/-- Without data types there is nothing to be looked at. -/
lemma of_none (hdataTypes : a.dataTypes = []) (hunions : a.unions = []) :
    a.Requested ctx demand := by
  constructor
  · rw [hdataTypes]
    exact fun _ hd => absurd hd List.not_mem_nil
  · rw [hunions]
    exact fun _ hu => absurd hu List.not_mem_nil

lemma empty : Requested ctx demand ∅ := of_none rfl rfl

lemma append (ha : a.Requested ctx demand) (hb : b.Requested ctx demand) :
    (a ++ b).Requested ctx demand where
  dataTypes := fun d hd => (List.mem_append.mp hd).elim (ha.dataTypes d) (hb.dataTypes d)
  unions := fun u hu => (List.mem_append.mp hu).elim (ha.unions u) (hb.unions u)

end Output.Requested

/-- What a stack of types brings is requested if the stack is. -/
lemma requested_of_run {package : String} {stack : List Wanted} {o : Output} {st st' : RunState}
    (hdemand : Hereditary ctx demand) (hstack : ∀ w ∈ stack, demand package w)
    (h : DataTypes.run ctx package stack st = .ok o st') : o.Requested ctx demand := by
  unfold DataTypes.run at h
  split at h
  · cases h
    obtain ⟨visits, htrace⟩ := exists_trace ctx package stack st.registry
    have hcovered := covered_of_trace hdemand hstack htrace
    refine ⟨fun d hd => (hcovered.dataTypes d hd).requested, fun u hu => ?_⟩
    rw [htrace.unions] at hu
    obtain ⟨v, hv, hu⟩ := List.mem_flatMap.mp hu
    obtain ⟨_, rfl⟩ := mem_unions_describe hu
    exact ⟨v.type, v.selection?, (htrace.known v hv).1,
      hdemand.of_asked hstack (htrace.asked v hv)⟩
  · cases h
    exact .empty

namespace Projection

variable {operation? : Option String} {st st' : RunState}

section

variable (hdemand : Hereditary ctx demand)

include hdemand

/-! ## One class -/

lemma requested_of_argumentTypes {arguments : List InputValue} {types : Output}
    (hasked : ∀ a ∈ arguments, demand ctx.config.typesNamespace ⟨a.typeName, none⟩)
    (h : argumentTypes ctx arguments st = .ok types st') : types.Requested ctx demand := by
  refine requested_of_run hdemand (fun w hw => ?_) h
  obtain ⟨name, hname, rfl⟩ := List.mem_map.mp hw
  obtain ⟨a, ha, rfl⟩ := List.mem_map.mp (List.mem_filter.mp hname).1
  exact hasked a ha

lemma requested_of_ownTypes {head : Head} {own : Output}
    (hasked : demand (operationPackage ctx.config operation?) ⟨head.type.name, head.selection?⟩)
    (h : ownTypes ctx operation? head st = .ok own st') : own.Requested ctx demand := by
  have hstack : ∀ w ∈ [(⟨head.type.name, head.selection?⟩ : Wanted)],
      demand (operationPackage ctx.config operation?) w := by
    intro w hw
    rw [List.mem_singleton.mp hw]
    exact hasked
  rcases ownTypes_cases h with hrun | ⟨rfl, _⟩
  · exact requested_of_run hdemand hstack hrun
  · exact .empty

/-! ## Trees -/

omit hdemand in
/-- A class brings what its members and its type bring. -/
lemma requested_output {plan : ClassPlan} {head : Head} {members : Members} {own : Output}
    (hbelow : members.below.Requested ctx demand) (hown : own.Requested ctx demand)
    (harguments : members.arguments.Requested ctx demand) :
    (plan.output ctx head members own).Requested ctx demand :=
  (((Output.Requested.of_none rfl rfl).append hbelow).append hown).append harguments

/-- What the members of a class bring has been asked for at the position of the class or below
it. -/
theorem requested_of_emits {frame : Frame} {taken : List String} {body : Body} {members : Members}
    (h : Emits ctx operation? frame taken body st members st') {p : Position}
    {trail : List String} (hfollows : body.Follows ctx p trail)
    (hadmits : Admits ctx demand operation? p) :
    members.below.Requested ctx demand ∧ members.arguments.Requested ctx demand := by
  induction h generalizing p trail with
  | done => exact ⟨.empty, .empty⟩
  | leaf harguments _ ih =>
    obtain ⟨hf, _, hfollows⟩ := hfollows
    obtain ⟨hbelow, hmore⟩ := ih hfollows hadmits
    have htypes := requested_of_argumentTypes hdemand (hadmits.arguments p .refl _ hf) harguments
    exact ⟨Output.Requested.empty.append hbelow, htypes.append hmore⟩
  | @branch frame taken f target below rest stem childStem inner members arguments own _ _ _ _ _ _
      harguments _ _ _ hown _ ihBelow ihRest =>
    obtain ⟨hleads, htarget, rfl, hfollows⟩ := hfollows
    obtain ⟨hbelow, hmore⟩ := ihRest hfollows hadmits
    have htypes := requested_of_argumentTypes hdemand
      (hadmits.arguments p .refl _ hleads.chosen) harguments
    -- below the field the walk asks as it does from the position of the field's type
    have hdescends := hadmits.step (.descend hleads)
    obtain ⟨hinner, hinnerTypes⟩ := ihBelow (Body.follows_grow ctx _ _) hdescends
    have hasked : demand (operationPackage ctx.config operation?)
        ⟨target.type.name, target.selection?⟩ := htarget ▸ hdescends.own _ .refl
    have hchild : ((frame.subPlan stem).output ctx target inner own).Requested ctx demand :=
      requested_output hinner (requested_of_ownTypes hdemand hasked hown) hinnerTypes
    exact ⟨hchild.append hbelow, htypes.append hmore⟩
  | @fragment frame taken target below rest stem childStem inner members own _ _ _ _ _ _ _ _ hown _
      ihBelow ihRest =>
    obtain ⟨hnarrows, htarget, rfl, hfollows⟩ := hfollows
    obtain ⟨hbelow, hmore⟩ := ihRest hfollows hadmits
    have hinside := hadmits.step (.narrow hnarrows)
    obtain ⟨hinner, hinnerTypes⟩ := ihBelow (Body.follows_grow ctx _ _) hinside
    have hasked : demand (operationPackage ctx.config operation?)
        ⟨target.type.name, target.selection?⟩ := htarget ▸ hinside.own _ .refl
    have hchild : ((frame.fragmentPlan stem).output ctx target inner own).Requested ctx demand :=
      requested_output hinner (requested_of_ownTypes hdemand hasked hown) hinnerTypes
    exact ⟨hchild.append hbelow, Output.Requested.empty.append hmore⟩

/-- What a tree brings has been asked for where its walk starts or below. -/
theorem requested_emitTree {plan : ClassPlan} {t : TypeDef} {selection? : Option Selection}
    {o : Output} (hadmits : Admits ctx demand operation? (.start t.name selection?))
    (h : emitTree ctx operation? plan t selection? st = .ok o st') : o.Requested ctx demand := by
  rcases emitTree_cases h with ⟨_, rfl, _⟩ | h
  · exact .empty
  · obtain ⟨stem, ready, members, filled, own, _, hemits, hown, rfl⟩ := h
    obtain ⟨hbelow, harguments⟩ := requested_of_emits hdemand hemits (Body.follows_grow ctx _ _)
      hadmits
    exact requested_output hbelow
      (requested_of_ownTypes hdemand (hadmits.own _ .refl) hown) harguments

end

end Projection

end ClientGen
