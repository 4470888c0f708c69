import ClientGen.Proofs.DataTypes.Covered
import ClientGen.Proofs.Emission.Sound
import Mathlib.Logic.Relation

/-!
# Covered classes of a run

Every class that a run makes brings the data types that it refers to: those of the arguments of
its fields go to the shared package, that of the type at its position to the package of the
operation. Where a type is in a package already, it has been brought by an earlier class.

* `Admits` collects what the classes below a position ask for.
* `covered_of_emits` is the invariant over the walk, and `covers_emitTree` what it comes to for a
  whole tree.
* `Call.covers` carries it over all calls.
-/

namespace ClientGen

open ClientGen.Projection
open Relation (ReflTransGen)

variable {ctx : Context} {demand : String → Wanted → Prop} {operation? : Option String}

/-! ## What is asked for below a position -/

/-- Whatever the classes at a position and below it ask for is in demand. -/
structure Admits (ctx : Context) (demand : String → Wanted → Prop) (operation? : Option String)
    (p : Position) : Prop where
  own : ∀ q, ReflTransGen (Nested ctx) p q →
    demand (DataTypes.operationPackage ctx.config operation?) ⟨q.typeName, q.selection?⟩
  arguments : ∀ q, ReflTransGen (Nested ctx) p q → ∀ f ∈ fieldsAt ctx q, ∀ a ∈ f.arguments,
    demand ctx.config.typesNamespace ⟨a.typeName, none⟩

lemma Admits.step {p q : Position} (h : Admits ctx demand operation? p) (hstep : Nested ctx p q) :
    Admits ctx demand operation? q :=
  ⟨fun r hr => h.own r (.head hstep hr), fun r hr => h.arguments r (.head hstep hr)⟩

/-! ## Parts of runs -/

/-- What a part of a run brings is covered at its end, no name is taken back, and all short forms
are without dots. -/
structure Covers (ctx : Context) (demand : String → Wanted → Prop) (st : RunState) (o : Output)
    (st' : RunState) : Prop where
  covered : o.Covered ctx demand st'.registry
  keeps : st.registry.names ⊆ st'.registry.names
  dotless : st'.shortener.Dotless

namespace Covers

variable {st mid st' : RunState} {a b : Output}

lemma empty (h : st.shortener.Dotless) : Covers ctx demand st ∅ st :=
  ⟨.empty _, List.Subset.refl _, h⟩

lemma append (h : Covers ctx demand st a mid) (h' : Covers ctx demand mid b st') :
    Covers ctx demand st (a ++ b) st' :=
  ⟨(h.covered.mono h'.keeps).append h'.covered, fun _ hn => h'.keeps (h.keeps hn), h'.dotless⟩

end Covers

lemma covers_of_run {package : String} {stack : List Wanted} {o : Output} {st st' : RunState}
    (hdata : ctx.config.dataTypes = true) (hdemand : Hereditary ctx demand)
    (hstack : ∀ w ∈ stack, demand package w) (hshort : st.shortener.Dotless)
    (h : DataTypes.run ctx package stack st = .ok o st') : Covers ctx demand st o st' := by
  obtain ⟨hcovered, _, hsame⟩ := covered_of_run hdata hdemand hstack h
  exact ⟨hcovered, (sound_types h).accounts.keeps, hsame ▸ hshort⟩

namespace Projection

/-! ## Arguments and own types -/

section

variable (hdata : ctx.config.dataTypes = true) (hdemand : Hereditary ctx demand)

include hdata hdemand

lemma covers_of_argumentTypes {arguments : List InputValue} {types : Output} {st st' : RunState}
    (hasked : ∀ a ∈ arguments, demand ctx.config.typesNamespace ⟨a.typeName, none⟩)
    (hshort : st.shortener.Dotless) (h : argumentTypes ctx arguments st = .ok types st') :
    Covers ctx demand st types st' ∧ ArgumentsCovered ctx st'.registry arguments := by
  have hstack : ∀ w ∈ ((arguments.map (·.typeName)).filter ctx.scope.isDataType).map
      (fun name => (⟨name, none⟩ : Wanted)), demand ctx.config.typesNamespace w := by
    intro w hw
    obtain ⟨name, hname, rfl⟩ := List.mem_map.mp hw
    obtain ⟨a, ha, rfl⟩ := List.mem_map.mp (List.mem_filter.mp hname).1
    exact hasked a ha
  refine ⟨covers_of_run hdata hdemand hstack hshort h, fun a ha hreferred => ?_⟩
  obtain ⟨_, hsettled, _⟩ := covered_of_run hdata hdemand hstack h
  apply hsettled
  apply List.mem_map_of_mem (f := fun name : String => (⟨name, none⟩ : Wanted))
  exact List.mem_filter.mpr ⟨List.mem_map_of_mem ha, hreferred⟩

lemma covers_of_ownTypes {head : Head} {own : Output} {st st' : RunState}
    (hasked : demand (DataTypes.operationPackage ctx.config operation?)
      ⟨head.type.name, head.selection?⟩)
    (hshort : st.shortener.Dotless) (h : ownTypes ctx operation? head st = .ok own st') :
    Covers ctx demand st own st' := by
  have hstack : ∀ w ∈ [(⟨head.type.name, head.selection?⟩ : Wanted)],
      demand (DataTypes.operationPackage ctx.config operation?) w := by
    intro w hw
    rw [List.mem_singleton.mp hw]
    exact hasked
  rcases ownTypes_cases h with hrun | ⟨rfl, rfl⟩
  · exact covers_of_run hdata hdemand hstack hshort hrun
  · exact .empty hshort

end

/-! ## Names of classes -/

lemma dotless_freeStem {stem : String} (h : Dotless stem) (r : Naming.Registry) :
    Dotless (freeStem ctx r stem) :=
  h.firstFree _ _

lemma dotless_classOfStem {stem : String} (h : Dotless stem) : Dotless (classOfStem stem) :=
  h.append (by decide)

/-- The stem below a class is its own or a short form of it. -/
lemma dotless_of_opens {plan : ClassPlan} {stem : String} {st ready : RunState}
    (h : Opens ctx plan stem st ready) (hstem : Dotless plan.stem)
    (hshort : st.shortener.Dotless) : Dotless stem ∧ ready.shortener.Dotless := by
  obtain ⟨mid, hregister, hchild⟩ := h
  obtain ⟨_, rfl⟩ := registerClass_eq_true.mp hregister
  unfold ClassPlan.childStem at hchild
  split at hchild
  · cases hchild
    exact hstem.shorten hshort
  · obtain ⟨rfl, rfl⟩ := Run.pure_eq_ok.mp hchild
    exact ⟨hstem, hshort⟩

lemma keeps_of_opens {plan : ClassPlan} {stem : String} {st ready : RunState}
    (h : Opens ctx plan stem st ready) : st.registry.names ⊆ ready.registry.names :=
  (Naming.Registry.grows_of_register? h.registered).keeps.subset

/-! ## Classes -/

/-- The methods of a class are covered, and so is what they bring. -/
structure Members.Covered (ctx : Context) (demand : String → Wanted → Prop)
    (r : Naming.Registry) (type : String) (members : Members) : Prop where
  methods : ∀ m ∈ members.methods, m.Covered ctx r type members.imports
  below : members.below.Covered ctx demand r
  arguments : members.arguments.Covered ctx demand r

lemma keeps_of_emits {frame : Frame} {taken : List String} {body : Body} {members : Members}
    {st st' : RunState} (h : Emits ctx operation? frame taken body st members st') :
    st.registry.names ⊆ st'.registry.names := by
  intro n hn
  have hcount := accounted_of_emits h n
  have hpositive := List.count_pos_iff.mpr hn
  apply List.count_pos_iff.mp
  omega

lemma covered_made {plan : ClassPlan} {head : Head} {members : Members} {r : Naming.Registry}
    (hname : Dotless plan.name) (h : members.Covered ctx demand r head.type.name) :
    (plan.made ctx head members).Covered ctx r := by
  refine ⟨hname, fun m hm => (h.methods m hm).mono (List.Subset.refl _) fun i hi => ?_⟩
  exact Text.mem_sortedSet.mpr hi

/-- A class with all that comes with it. -/
lemma covers_output (hdata : ctx.config.dataTypes = true) (hdemand : Hereditary ctx demand)
    {plan : ClassPlan} {head : Head} {members : Members} {own : Output} {filled st' : RunState}
    (hasked : demand (DataTypes.operationPackage ctx.config operation?)
      ⟨head.type.name, head.selection?⟩)
    (hname : Dotless plan.name) (h : members.Covered ctx demand filled.registry head.type.name)
    (hshort : filled.shortener.Dotless)
    (hown : ownTypes ctx operation? head filled = .ok own st') :
    Covers ctx demand filled (plan.output ctx head members own) st' := by
  have htypes := covers_of_ownTypes hdata hdemand hasked hshort hown
  have hclass : (plan.made ctx head members).Covered ctx st'.registry :=
    (covered_made hname h).mono htypes.keeps
  have hfirst : Output.Covered ctx demand st'.registry
      { projections := [plan.made ctx head members], warnings := head.warnings } :=
    .projection hclass head.warnings
  refine ⟨?_, htypes.keeps, htypes.dotless⟩
  exact ((hfirst.append (h.below.mono htypes.keeps)).append htypes.covered).append
    (h.arguments.mono htypes.keeps)

/-- One more method, with what it brings. -/
lemma covered_cons {members : Members} {m : Method} {imports : List String}
    {child arguments : Output} {r : Naming.Registry} {type : String}
    (hm : m.Covered ctx r type imports) (hchild : child.Covered ctx demand r)
    (harguments : arguments.Covered ctx demand r) (h : members.Covered ctx demand r type) :
    (members.cons m imports child arguments).Covered ctx demand r type := by
  refine ⟨fun n hn => ?_, hchild.append h.below, harguments.append h.arguments⟩
  rcases List.mem_cons.mp hn with rfl | hn
  · exact hm.mono (List.Subset.refl _) (List.subset_append_left _ _)
  · exact (h.methods n hn).mono (List.Subset.refl _) (List.subset_append_right _ _)

/-- A chosen field is a field of the type at hand. -/
lemma mem_fieldsOf_of_mem_fieldsAt {p : Position} {f : Field} (h : f ∈ fieldsAt ctx p) :
    f ∈ ctx.schema.fieldsOf p.typeName := by
  unfold fieldsAt at h
  split at h
  · cases h
  · rename_i t ht
    rw [← Schema.findType?_name ht]
    exact Config.mem_of_mem_selectFields h

lemma covered_fieldMethod {p : Position} {f : Field} {name returns : String}
    {action : MethodAction} {r : Naming.Registry} (hf : f ∈ fieldsAt ctx p)
    (haction : action = .select f.name ∨ ∃ access, action = .descend f.name access)
    (h : ArgumentsCovered ctx r f.arguments) :
    (Frame.fieldMethod ctx name returns action f).Covered ctx r p.typeName
      (ctx.argumentImports f.arguments) := by
  have hfield : ∃ g ∈ ctx.schema.fieldsOf p.typeName, g.name = f.name
      ∧ (ctx.parameters Naming.methodNames false f.arguments).1
        = (ctx.parameters Naming.methodNames false g.arguments).1
      ∧ ArgumentsCovered ctx r g.arguments
      ∧ ctx.argumentImports g.arguments ⊆ ctx.argumentImports f.arguments :=
    ⟨f, mem_fieldsOf_of_mem_fieldsAt hf, rfl, rfl, h, List.Subset.refl _⟩
  rcases haction with rfl | ⟨access, rfl⟩
  · exact hfield
  · exact hfield

/-- The methods that are made for a position are covered, with all that they bring. -/
theorem covered_of_emits (hdata : ctx.config.dataTypes = true) (hnames : ctx.schema.Dotless)
    (hdemand : Hereditary ctx demand) {frame : Frame} {taken : List String} {body : Body}
    {members : Members} {st st' : RunState}
    (h : Emits ctx operation? frame taken body st members st') {p : Position}
    {trail : List String} (hfollows : body.Follows ctx p trail)
    (hadmits : Admits ctx demand operation? p) (hstem : Dotless frame.childStem)
    (hshort : st.shortener.Dotless) :
    members.Covered ctx demand st'.registry p.typeName ∧ st'.shortener.Dotless := by
  induction h generalizing p trail with
  | done => exact ⟨⟨fun _ hm => absurd hm List.not_mem_nil, .empty _, .empty _⟩, hshort⟩
  | @leaf frame taken f rest members arguments st mid st' harguments hrest ih =>
    obtain ⟨hf, _, hfollows⟩ := hfollows
    obtain ⟨htypes, hcovered⟩ := covers_of_argumentTypes hdata hdemand
      (fun a ha => hadmits.arguments p .refl f hf a ha) hshort harguments
    obtain ⟨hmembers, hlast⟩ := ih hfollows hadmits hstem htypes.dotless
    have hkeeps := keeps_of_emits hrest
    refine ⟨covered_cons ?_ (.empty _) (htypes.covered.mono hkeeps) hmembers, hlast⟩
    exact covered_fieldMethod hf (.inl rfl) (hcovered.mono hkeeps)
  | @branch frame taken f target below rest stem childStem inner members arguments own st claimed
      ready filled closed st' harguments hclaim hopens hbelow hown hrest ihBelow ihRest =>
    obtain ⟨hleads, htarget, rfl, hfollows⟩ := hfollows
    have hf := hleads.chosen
    obtain ⟨htypes, hcovered⟩ := covers_of_argumentTypes hdata hdemand
      (fun a ha => hadmits.arguments p .refl f hf a ha) hshort harguments
    have hfree : Dotless stem := by
      rw [hclaim]
      apply dotless_freeStem
      exact (hstem.append (by decide)).append
        (hnames.field (mem_fieldsOf_of_mem_fieldsAt hf)).capitalized
    obtain ⟨hchildStem, hready⟩ := dotless_of_opens hopens hfree htypes.dotless
    -- below the field the walk stands at the type of the field
    have hdescends := hadmits.step (.descend hleads)
    obtain ⟨hinner, hfilled⟩ := ihBelow (Body.follows_grow ctx _ _) hdescends hchildStem hready
    have hasked := hdescends.own _ .refl
    have hselection : (p.below f target.type).selection? = target.selection? := by
      rw [htarget]
      rfl
    rw [hselection] at hasked
    have hname : Dotless (frame.subPlan stem).name := dotless_classOfStem hfree
    have hclass := covers_output hdata hdemand hasked hname hinner hfilled hown
    obtain ⟨hmembers, hlast⟩ := ihRest hfollows hadmits hstem hclass.dotless
    have hkeeps := keeps_of_emits hrest
    have hkeepsAll : claimed.registry.names ⊆ st'.registry.names := fun n hn =>
      hkeeps (hclass.keeps (keeps_of_emits hbelow (keeps_of_opens hopens hn)))
    refine ⟨covered_cons ?_ (hclass.covered.mono hkeeps) (htypes.covered.mono hkeepsAll) hmembers,
      hlast⟩
    exact covered_fieldMethod hf (.inr ⟨frame.access, rfl⟩) (hcovered.mono hkeepsAll)
  | @fragment frame taken target below rest stem childStem inner members own st ready filled closed
      st' hclaim hopens hbelow hown hrest ihBelow ihRest =>
    obtain ⟨hnarrows, htarget, rfl, hfollows⟩ := hfollows
    have hfree : Dotless stem := by
      rw [hclaim]
      apply dotless_freeStem
      exact (hstem.append (by decide)).append
        (hnames.type (mem_types_of_mem_narrowingsAt hnarrows)).capitalized
    obtain ⟨hchildStem, hready⟩ := dotless_of_opens hopens hfree hshort
    have hinside := hadmits.step (.narrow hnarrows)
    obtain ⟨hinner, hfilled⟩ := ihBelow (Body.follows_grow ctx _ _) hinside hchildStem hready
    have hasked := hinside.own _ .refl
    have hselection : (p.inside target.type).selection? = target.selection? := by
      rw [htarget]
      rfl
    rw [hselection] at hasked
    have hname : Dotless (frame.fragmentPlan stem).name := dotless_classOfStem hfree
    have hclass := covers_output hdata hdemand hasked hname hinner hfilled hown
    obtain ⟨hmembers, hlast⟩ := ihRest hfollows hadmits hstem hclass.dotless
    refine ⟨covered_cons rfl (hclass.covered.mono (keeps_of_emits hrest)) (.empty _) hmembers, hlast⟩

/-- A tree whose start admits what is asked for is covered. -/
theorem covers_emitTree (hdata : ctx.config.dataTypes = true) (hnames : ctx.schema.Dotless)
    (hdemand : Hereditary ctx demand) {plan : ClassPlan} {t : TypeDef}
    {selection? : Option Selection} {o : Output} {st st' : RunState}
    (hadmits : Admits ctx demand operation? (.start t.name selection?))
    (hname : Dotless plan.name) (hstem : Dotless plan.stem) (hshort : st.shortener.Dotless)
    (h : emitTree ctx operation? plan t selection? st = .ok o st') :
    Covers ctx demand st o st' := by
  rcases emitTree_cases h with ⟨_, rfl, rfl⟩ | h
  · exact .empty hshort
  · obtain ⟨stem, ready, members, filled, own, hopens, hemits, hown, rfl⟩ := h
    obtain ⟨hchildStem, hready⟩ := dotless_of_opens hopens hstem hshort
    obtain ⟨hmembers, hfilled⟩ := covered_of_emits hdata hnames hdemand hemits
      (Body.follows_grow ctx _ _) hadmits hchildStem hready
    have hasked : demand (DataTypes.operationPackage ctx.config operation?)
        ⟨(headAt ctx t selection?).type.name, (headAt ctx t selection?).selection?⟩ :=
      hadmits.own _ .refl
    have hclass := covers_output hdata hdemand hasked hname hmembers hfilled hown
    refine ⟨hclass.covered, fun n hn => ?_, hclass.dotless⟩
    exact hclass.keeps (keeps_of_emits hemits (keeps_of_opens hopens hn))

end Projection

end ClientGen
