import ClientGen.Proofs.Emission.Covered
import ClientGen.Proofs.Naming.Members

/-!
# Method names of a tree

The methods of a class are given their names one after the other, apart from what all projection
classes define for themselves: those for fields after the fields, those for fragments after the
types. The same goes for the parameters of each method.

* `MethodsNamed` is what the methods of a class are.
* `methodsNamed_of_emits` is the induction over the walk, and `methodsNamed_emitTree` what it comes
  to for all classes of a tree.
-/

namespace ClientGen

open ClientGen.Naming ClientGen.Projection
open ClientGen.Document.Token (isName)

/-! ## Names of the grammar -/

/-- The name of a field and those of its arguments are names of the grammar. -/
def Field.IsNamed (f : Field) : Prop :=
  isName f.name = true ∧ ∀ a ∈ f.arguments, isName a.name = true

instance (f : Field) : Decidable f.IsNamed :=
  inferInstanceAs (Decidable (_ ∧ _))

/-- The names of a schema that its members go by are names of the grammar: those of its types, and
those of fields and arguments. -/
def Schema.MembersNamed (s : Schema) : Prop :=
  (∀ t ∈ s.types, isName t.name = true ∧ ∀ f ∈ t.fields, f.IsNamed)
    ∧ ∀ e ∈ s.extensions, ∀ f ∈ e.2, f.IsNamed

instance (s : Schema) : Decidable s.MembersNamed :=
  inferInstanceAs (Decidable (_ ∧ ∀ e ∈ s.extensions, ∀ f ∈ e.2, f.IsNamed))

lemma Schema.MembersNamed.of_mem_fieldsOf {s : Schema} (h : s.MembersNamed) {type : String}
    {f : Field} (hf : f ∈ s.fieldsOf type) : f.IsNamed := by
  rcases Schema.declared_of_mem_fieldsOf hf with ⟨t, ht, hf⟩ | ⟨e, he, hf⟩
  · exact (h.1 t ht).2 f hf
  · exact h.2 e he f hf

/-! ## Methods -/

/-- Methods whose names may stand side by side, as may those of the parameters of each. -/
structure MethodsNamed (taken : List String) (methods : List Method) : Prop where
  names : WellNamed taken (methods.map (·.name))
  parameters : ∀ m ∈ methods, WellNamed methodNames (m.parameters.map (·.identifier))

namespace MethodsNamed

variable {taken : List String} {m : Method} {methods : List Method}

lemma nil : MethodsNamed taken [] :=
  ⟨.nil, fun _ hm => (List.not_mem_nil hm).elim⟩

lemma cons (hfree : m.name ∉ taken) (husable : IsUsable m.name)
    (hparameters : WellNamed methodNames (m.parameters.map (·.identifier)))
    (h : MethodsNamed (m.name :: taken) methods) : MethodsNamed taken (m :: methods) :=
  ⟨h.names.cons hfree husable, List.forall_mem_cons.mpr ⟨hparameters, h.parameters⟩⟩

/-- A method for a field, whatever it returns. -/
lemma cons_field {ctx : Context} {f : Field} {returns : String} {action : MethodAction}
    (hf : f.IsNamed) (h : MethodsNamed (memberName taken f.name :: taken) methods) :
    MethodsNamed taken
      (Frame.fieldMethod ctx (memberName taken f.name) returns action f :: methods) :=
  h.cons (fresh_not_mem taken _) (isUsable_memberName hf.1 taken)
    (wellNamed_parameters ctx hf.2 methodNames false)

/-- A method for a fragment, which has no parameters. -/
lemma cons_fragment {type returns : String} {access : RootAccess} (htype : isName type = true)
    (h : MethodsNamed (fragmentMethodName taken type :: taken) methods) :
    MethodsNamed taken
      ({ name := fragmentMethodName taken type, returns, action := .narrow type access }
        :: methods) :=
  h.cons (fresh_not_mem taken _) (isUsable_fragmentMethodName htype taken) .nil

end MethodsNamed

/-- The methods of a class, apart from what all projection classes define. -/
def ProjectionClass.MethodsNamed (c : ProjectionClass) : Prop :=
  ClientGen.MethodsNamed projectionNames c.methods

/-- The methods of all classes of an output. -/
def Output.MethodsNamed (o : Output) : Prop :=
  ∀ c ∈ o.projections, c.MethodsNamed

namespace Output.MethodsNamed

variable {a b : Output}

/-- Without projections there is nothing to be named. -/
lemma of_none (h : a.projections = []) : a.MethodsNamed := by
  intro c hc
  rw [h] at hc
  cases hc

lemma append (ha : a.MethodsNamed) (hb : b.MethodsNamed) : (a ++ b).MethodsNamed :=
  fun c hc => (List.mem_append.mp hc).elim (ha c) (hb c)

end Output.MethodsNamed

namespace Projection

variable {ctx : Context} {operation? : Option String} {st st' : RunState}

/-! ## Trees -/

/-- Data types come without projections. -/
lemma methodsNamed_of_run {package : String} {stack : List Wanted} {types : Output}
    (h : DataTypes.run ctx package stack st = .ok types st') : types.MethodsNamed :=
  .of_none (DataTypes.bringsTypes_of_run h).projections

lemma methodsNamed_of_ownTypes {head : Head} {own : Output}
    (h : ownTypes ctx operation? head st = .ok own st') : own.MethodsNamed :=
  .of_none (bringsTypes_of_ownTypes h).projections

/-- A class with all that comes with it. -/
lemma methodsNamed_output {plan : ClassPlan} {head : Head} {members : Members} {own : Output}
    (hmethods : MethodsNamed projectionNames members.methods)
    (hbelow : members.below.MethodsNamed) (hown : own.MethodsNamed)
    (harguments : members.arguments.MethodsNamed) :
    (plan.output ctx head members own).MethodsNamed := by
  have hfirst : Output.MethodsNamed
      { projections := [plan.made ctx head members], warnings := head.warnings } := by
    intro c hc
    rw [List.mem_singleton.mp hc]
    exact hmethods
  exact ((hfirst.append hbelow).append hown).append harguments

/-- The methods that a walk makes have names apart from those that are taken, and so have those of
all classes below. -/
theorem methodsNamed_of_emits (hnames : ctx.schema.MembersNamed) {frame : Frame}
    {taken : List String} {body : Body} {members : Members} {p : Position} {trail : List String}
    (h : Emits ctx operation? frame taken body st members st')
    (hfollows : body.Follows ctx p trail) :
    MethodsNamed taken members.methods ∧ members.below.MethodsNamed
      ∧ members.arguments.MethodsNamed := by
  have hfield : ∀ {p : Position} {f : Field}, f ∈ fieldsAt ctx p → f.IsNamed :=
    fun hf => hnames.of_mem_fieldsOf (mem_fieldsOf_of_mem_fieldsAt hf)
  induction h generalizing p trail with
  | done => exact ⟨.nil, .of_none rfl, .of_none rfl⟩
  | leaf harguments _ ih =>
    obtain ⟨hf, _, hfollows⟩ := hfollows
    obtain ⟨hmethods, hbelow, hmore⟩ := ih hfollows
    exact ⟨hmethods.cons_field (hfield hf), hbelow,
      (methodsNamed_of_run harguments).append hmore⟩
  | @branch frame _ _ target _ _ stem _ inner _ _ own _ _ _ _ _ _ harguments _ _ _ hown _ ihBelow
      ihRest =>
    obtain ⟨hleads, _, rfl, hfollows⟩ := hfollows
    obtain ⟨hmethods, hbelow, hmore⟩ := ihRest hfollows
    obtain ⟨hinner, hchildren, htypes⟩ := ihBelow (Body.follows_grow ctx _ _)
    have hchild : ((frame.subPlan stem).output ctx target inner own).MethodsNamed :=
      methodsNamed_output hinner hchildren (methodsNamed_of_ownTypes hown) htypes
    exact ⟨hmethods.cons_field (hfield hleads.chosen), hchild.append hbelow,
      (methodsNamed_of_run harguments).append hmore⟩
  | @fragment frame _ target _ _ stem _ inner _ own _ _ _ _ _ _ _ _ hown _ ihBelow ihRest =>
    obtain ⟨hnarrows, _, rfl, hfollows⟩ := hfollows
    obtain ⟨hmethods, hbelow, hmore⟩ := ihRest hfollows
    obtain ⟨hinner, hchildren, htypes⟩ := ihBelow (Body.follows_grow ctx _ _)
    have hchild : ((frame.fragmentPlan stem).output ctx target inner own).MethodsNamed :=
      methodsNamed_output hinner hchildren (methodsNamed_of_ownTypes hown) htypes
    have htype := (hnames.1 _ (mem_types_of_mem_narrowingsAt hnarrows)).1
    exact ⟨hmethods.cons_fragment htype, hchild.append hbelow, hmore⟩

/-- All classes of a tree have methods with names that may stand side by side. -/
theorem methodsNamed_emitTree (hnames : ctx.schema.MembersNamed) {plan : ClassPlan} {t : TypeDef}
    {selection? : Option Selection} {o : Output}
    (h : emitTree ctx operation? plan t selection? st = .ok o st') : o.MethodsNamed := by
  rcases emitTree_cases h with ⟨_, rfl, _⟩ | h
  · exact .of_none rfl
  · obtain ⟨stem, ready, members, filled, own, _, hemits, hown, rfl⟩ := h
    obtain ⟨hmethods, hbelow, harguments⟩ :=
      methodsNamed_of_emits hnames hemits (Body.follows_grow ctx _ _)
    exact methodsNamed_output hmethods hbelow (methodsNamed_of_ownTypes hown) harguments

end Projection

end ClientGen
