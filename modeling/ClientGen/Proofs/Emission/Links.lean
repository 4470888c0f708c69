import ClientGen.Generation
import ClientGen.Proofs.Emission.Steps
import ClientGen.Proofs.Keys

/-!
# Methods and the classes that they return

A method for a field with sub-fields, or for a fragment, returns another class. What the method
promises about that class and what the class says of itself are both written down as a `Link`. A
tree is in balance: the links that its methods call for are, counted with multiplicity, the links
of the classes below its top.

* `Members.linked_of_emits` is the invariant over the walk.
* `count_arrivals_output` is what it comes to for a class with all below it.
-/

namespace ClientGen

/-! ## Accessors -/

/-- The method returns another class. -/
def Method.isAccessor (m : Method) : Bool :=
  match m.action with
  | .select _ => false
  | .descend _ _ | .narrow _ _ => true

namespace ProjectionClass

/-- The class that holds the fragments on the entity types. No other class is without a root. -/
def isFederationRoot (ctx : Context) (c : ProjectionClass) : Bool :=
  c = entitiesClass ctx c.methods

/-- The fragment on an entity type, as it stands below the federation root. -/
def isKeyFragment (c : ProjectionClass) : Bool :=
  c.base = .fragment && !c.includeTypename && c.name = (keyPlan c.schemaType).name
    && c.parent? = some entitiesRoot && c.root? = some entitiesRoot

end ProjectionClass

/-- Only a root can be taken for the federation root. -/
lemma isFederationRoot_of_base {ctx : Context} {d : ProjectionClass} (h : d.base ≠ .root) :
    d.isFederationRoot ctx = false :=
  decide_eq_false fun hroot => h (congrArg ProjectionClass.base hroot)

/-! ## Links -/

/-- What is known of a class where a method returns it. -/
structure Link where
  name : String
  schemaType? : Option String
  base : ProjectionBase
  includeTypename : Bool
  parent? : Option String
  root? : Option String
deriving DecidableEq

/-- The type of a field, by the name of the field. -/
def fieldTypeName? (ctx : Context) (type field : String) : Option String :=
  (Config.fieldNamed? (ctx.schema.fieldsOf type) field).map (·.typeName)

/-- The types behind an interface or a union, by its name. -/
def concreteTypesOf (ctx : Context) (type : String) : List TypeDef :=
  (ctx.schema.findType? type).elim [] ctx.schema.concreteTypes

/-- The name of a type, if it is one of those behind another. -/
def concreteName? (ctx : Context) (type concrete : String) : Option String :=
  ((concreteTypesOf ctx type).find? (·.name = concrete)).map (·.name)

/-- What a method of a class calls for. -/
def Method.link? (ctx : Context) (c : ProjectionClass) (m : Method) : Option Link :=
  match m.action with
  | .select _ => none
  | .descend field _ =>
    some ⟨m.returns, fieldTypeName? ctx c.schemaType field, .sub, false, some c.name, c.root?⟩
  | .narrow type _ =>
    some ⟨m.returns, concreteName? ctx c.schemaType type, .fragment, true, some c.name, c.root?⟩

/-- What a class says of itself, if a method of another class has to return it. -/
def ProjectionClass.arrival? (c : ProjectionClass) : Option Link :=
  if c.base = .sub ∨ c.base = .fragment ∧ c.includeTypename = true then
    some ⟨c.name, some c.schemaType, c.base, c.includeTypename, c.parent?, c.root?⟩
  else none

/-- What the methods of some classes call for. -/
def calls (ctx : Context) (cs : List ProjectionClass) : List Link :=
  (cs.filter (!·.isFederationRoot ctx)).flatMap fun c => c.methods.filterMap (Method.link? ctx c)

/-- What some classes say of themselves. -/
def arrivals (cs : List ProjectionClass) : List Link :=
  cs.filterMap ProjectionClass.arrival?

@[simp] lemma calls_append (ctx : Context) (cs ds : List ProjectionClass) :
    calls ctx (cs ++ ds) = calls ctx cs ++ calls ctx ds := by
  unfold calls
  rw [List.filter_append, List.flatMap_append]

@[simp] lemma arrivals_append (cs ds : List ProjectionClass) :
    arrivals (cs ++ ds) = arrivals cs ++ arrivals ds := by
  unfold arrivals
  rw [List.filterMap_append]

/-! ## What is looked up by name -/

namespace Projection

variable {ctx : Context} {p : Position}

/-- The type of a chosen field is the type of the field of that name. -/
lemma fieldTypeName?_of_mem {f : Field} (h : f ∈ fieldsAt ctx p) :
    fieldTypeName? ctx p.typeName f.name = some f.typeName := by
  unfold fieldsAt at h
  split at h
  · cases h
  · rename_i t ht
    rw [← Schema.findType?_name ht]
    have hf : f ∈ ctx.schema.fieldsOf t.name := Config.mem_of_mem_selectFields h
    unfold fieldTypeName? Config.fieldNamed?
    -- the fields have different names, so the search finds this very field
    rw [find?_eq_some (ctx.schema.nodup_fieldsOf t.name) hf]
    rfl

lemma concreteName?_of_mem {c : TypeDef} (h : c ∈ narrowingsAt ctx p) :
    concreteName? ctx p.typeName c.name = some c.name := by
  unfold narrowingsAt at h
  unfold concreteName? concreteTypesOf
  split at h
  · cases h
  · rename_i t ht
    have hc := Config.mem_of_mem_selectConcreteTypes h
    rw [ht, Option.elim_some]
    -- a union may list a type twice, but only its name matters
    cases hfind : (ctx.schema.concreteTypes t).find? (·.name = c.name) with
    | none => simpa using List.find?_eq_none.mp hfind c hc
    | some d =>
      have hname : d.name = c.name := by simpa using List.find?_some hfind
      rw [Option.map_some, hname]

/-! ## Balance -/

/-- The methods of a class and the classes below it are in balance: the links that methods call
for are those of the classes below. -/
def Members.Linked (ctx : Context) (c : ProjectionClass) (members : Members) : Prop :=
  ∀ l, (members.methods.filterMap (Method.link? ctx c)).count l
      + (calls ctx members.below.projections).count l
    = (arrivals members.below.projections).count l

/-- A class of a tree is never the federation root, which has no root. -/
lemma isFederationRoot_made (plan : ClassPlan) (head : Head) (members : Members) :
    (plan.made ctx head members).isFederationRoot ctx = false := by
  apply decide_eq_false
  intro h
  -- a class of base `root` is its own root
  have hbase : plan.base = .root := congrArg ProjectionClass.base h
  have hroot : plan.rootClass? = none := congrArg ProjectionClass.root? h
  unfold ClassPlan.rootClass? at hroot
  rw [hbase] at hroot
  cases hroot

lemma projections_output (plan : ClassPlan) (head : Head) (members : Members) {own : Output}
    (hown : own.projections = []) (harguments : members.arguments.projections = []) :
    (plan.output ctx head members own).projections
      = plan.made ctx head members :: members.below.projections := by
  unfold ClassPlan.output
  simp only [Output.projections_append, hown, harguments, List.append_nil]
  rfl

/-- In a class with all below it, every link but that of the class itself is called for. -/
lemma count_arrivals_output {plan : ClassPlan} {head : Head} {members : Members} {own : Output}
    (hown : own.projections = []) (harguments : members.arguments.projections = [])
    (hlinked : members.Linked ctx (plan.made ctx head members)) (l : Link) :
    (arrivals (plan.output ctx head members own).projections).count l
      = (plan.made ctx head members).arrival?.toList.count l
        + (calls ctx (plan.output ctx head members own).projections).count l := by
  rw [projections_output plan head members hown harguments]
  generalize hmade : plan.made ctx head members = made at hlinked
  have hnot : made.isFederationRoot ctx = false := hmade ▸ isFederationRoot_made plan head members
  have hmethods : made.methods = members.methods := by rw [← hmade]; rfl
  have hcalls : calls ctx (made :: members.below.projections)
      = members.methods.filterMap (Method.link? ctx made)
        ++ calls ctx members.below.projections := by
    unfold calls
    rw [List.filter_cons_of_pos (by rw [hnot]; rfl), List.flatMap_cons, hmethods]
  have harrivals : arrivals (made :: members.below.projections)
      = made.arrival?.toList ++ arrivals members.below.projections := by
    unfold arrivals
    rw [List.filterMap_cons]
    cases made.arrival? with
    | none => rfl
    | some link => rfl
  have hl := hlinked l
  rw [hcalls, harrivals, List.count_append, List.count_append]
  omega

/-- The arguments of fields bring no projections with them. -/
lemma arguments_of_emits {operation? : Option String} {frame : Frame} {taken : List String}
    {body : Body} {members : Members} {st st' : RunState}
    (h : Emits ctx operation? frame taken body st members st') :
    members.arguments.projections = [] := by
  induction h with
  | done => rfl
  | leaf hargs _ ih =>
    show (_ ++ _ : Output).projections = []
    rw [Output.projections_append, (bringsTypes_of_argumentTypes hargs).projections, ih]
    rfl
  | branch hargs _ _ _ _ _ _ ih =>
    show (_ ++ _ : Output).projections = []
    rw [Output.projections_append, (bringsTypes_of_argumentTypes hargs).projections, ih]
    rfl
  | fragment _ _ _ _ _ _ ih => exact ih

/-- One more method, with the classes that it brings. -/
lemma linked_cons {c : ProjectionClass} {members : Members} {m : Method} {imports : List String}
    {child arguments : Output}
    (hchild : ∀ l, (arrivals child.projections).count l
      = (m.link? ctx c).toList.count l + (calls ctx child.projections).count l)
    (h : members.Linked ctx c) : (members.cons m imports child arguments).Linked ctx c := by
  intro l
  have hmethods : (m :: members.methods).filterMap (Method.link? ctx c)
      = (m.link? ctx c).toList ++ members.methods.filterMap (Method.link? ctx c) := by
    rw [List.filterMap_cons]
    cases m.link? ctx c with
    | none => rfl
    | some link => rfl
  have hfirst := hchild l
  have hrest := h l
  show ((m :: members.methods).filterMap _).count l
      + (calls ctx (child ++ members.below).projections).count l
    = (arrivals (child ++ members.below).projections).count l
  rw [hmethods, Output.projections_append, calls_append, arrivals_append, List.count_append,
    List.count_append, List.count_append]
  omega

/-- The class that a frame speaks of, at a position. -/
structure Frame.IsOf (frame : Frame) (p : Position) (c : ProjectionClass) : Prop where
  name : c.name = frame.className
  root : c.root? = frame.rootClass?
  type : c.schemaType = p.typeName

lemma isOf_made (plan : ClassPlan) (childStem : String) {head : Head} (members : Members)
    (h : head.type.name = p.typeName) :
    (plan.frame childStem).IsOf p (plan.made ctx head members) :=
  ⟨rfl, rfl, h⟩

/-- The method for a field calls for the class that is made below it. -/
lemma link?_branchMethod {frame : Frame} {f : Field} {target : Head} {c : ProjectionClass}
    (hleads : LeadsOn ctx p f target.type) (hc : frame.IsOf p c) (name stem : String)
    (inner : Members) :
    (frame.branchMethod ctx name f stem).link? ctx c
      = ((frame.subPlan stem).made ctx target inner).arrival? := by
  have htype : fieldTypeName? ctx c.schemaType f.name = some target.type.name := by
    rw [hc.type, fieldTypeName?_of_mem hleads.chosen]
    rw [Schema.findType?_name (Schema.findSelectable?_eq_some hleads.found)]
  show some (Link.mk _ (fieldTypeName? ctx c.schemaType f.name) _ _ (some c.name) c.root?) = _
  rw [htype, hc.name, hc.root]
  rfl

/-- The method for a fragment calls for the class of the fragment. -/
lemma link?_fragmentMethod {frame : Frame} {target : Head} {c : ProjectionClass}
    (hnarrows : target.type ∈ narrowingsAt ctx p) (hc : frame.IsOf p c) (name stem : String)
    (inner : Members) :
    (frame.fragmentMethod name target.type.name stem).link? ctx c
      = ((frame.fragmentPlan stem).made ctx target inner).arrival? := by
  have htype : concreteName? ctx c.schemaType target.type.name = some target.type.name := by
    rw [hc.type, concreteName?_of_mem hnarrows]
  show some (Link.mk _ (concreteName? ctx c.schemaType target.type.name) _ _ (some c.name) c.root?)
    = _
  rw [htype, hc.name, hc.root]
  rfl

/-- The methods that are made for a class at a position are in balance with the classes below. -/
theorem linked_of_emits {operation? : Option String} {frame : Frame} {taken : List String}
    {body : Body} {members : Members} {st st' : RunState}
    (h : Emits ctx operation? frame taken body st members st') {trail : List String}
    (hfollows : body.Follows ctx p trail) {c : ProjectionClass} (hc : frame.IsOf p c) :
    members.Linked ctx c := by
  induction h generalizing p trail c with
  | done => intro l; rfl
  | leaf _ _ ih =>
    -- a field without sub-fields calls for nothing and brings nothing
    exact linked_cons (fun l => rfl) (ih hfollows.2.2 hc)
  | @branch frame taken f target below rest stem childStem inner members arguments own _ _ _ _ _ _
      _ _ _ hbelow hown _ ihBelow ihRest =>
    obtain ⟨hleads, _, rfl, hrest⟩ := hfollows
    have hinner : inner.Linked ctx ((frame.subPlan stem).made ctx target inner) :=
      ihBelow (Body.follows_grow ctx _ _) (isOf_made _ childStem inner rfl)
    apply linked_cons ?_ (ihRest hrest hc)
    intro l
    -- what the method calls for is what the class below says of itself
    rw [link?_branchMethod hleads hc _ stem inner]
    exact count_arrivals_output (bringsTypes_of_ownTypes hown).projections
      (arguments_of_emits hbelow) hinner l
  | @fragment frame taken target below rest stem childStem inner members own _ _ _ _ _ _ _ hbelow
      hown _ ihBelow ihRest =>
    obtain ⟨hnarrows, _, rfl, hrest⟩ := hfollows
    have hinner : inner.Linked ctx ((frame.fragmentPlan stem).made ctx target inner) :=
      ihBelow (Body.follows_grow ctx _ _) (isOf_made _ childStem inner rfl)
    apply linked_cons ?_ (ihRest hrest hc)
    intro l
    rw [link?_fragmentMethod hnarrows hc _ stem inner]
    exact count_arrivals_output (bringsTypes_of_ownTypes hown).projections
      (arguments_of_emits hbelow) hinner l

end Projection

end ClientGen
