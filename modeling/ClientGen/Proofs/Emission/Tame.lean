import ClientGen.Calls
import ClientGen.Proofs.Emission.Steps
import ClientGen.Proofs.Walk.Ending

/-!
# How runs fail

Every part of a run keeps the names that have been given out and gives none out twice, also where
it fails half-way. There are two reasons to fail. Fragments without an end are met in the middle of
the work, and only where a walk has no end; an unknown type of a root field is met before any name
is given out.

* `tame_emitTree` and `tame_generateEntities` cover the parts that can only meet the first.
* `Call.tame_or_schemaError` covers all calls, and `Call.state_of_schemaError` says that the
  second leaves the state as it was.
-/

namespace ClientGen

namespace Projection

variable (ctx : Context) (operation? : Option String) {ends : Prop}

/-! ## Basic steps -/

lemma tame_registerClass (name : String) : (registerClass ctx name).Tame ends := by
  refine .of_ok fun st => ?_
  by_cases h : clientName ctx name ∈ st.registry.names
  · exact ⟨false, st, registerClass_eq_false.mpr ⟨h, rfl⟩, .refl _⟩
  · have hregister := Naming.Registry.register?_eq_some.mpr ⟨h, rfl⟩
    exact ⟨true, _, registerClass_eq_true.mpr ⟨h, rfl⟩,
      Naming.Registry.grows_of_register? hregister⟩

lemma tame_claimStem (stem : String) : (claimStem ctx stem).Tame ends :=
  .of_ok fun _ => ⟨_, _, rfl, .refl _⟩

lemma tame_childStem (plan : ClassPlan) : (plan.childStem ctx).Tame ends := by
  refine .of_ok fun st => ?_
  obtain ⟨stem, st', hstem, hsame⟩ := exists_childStem ctx plan st
  exact ⟨stem, st', hstem, hsame ▸ .refl _⟩

lemma tame_dataTypes (package : String) (stack : List Wanted) :
    (DataTypes.run ctx package stack).Tame ends := by
  refine .of_ok fun st => ?_
  obtain ⟨o, st', ho, hbrings⟩ := DataTypes.run_spec ctx package stack st
  exact ⟨o, st', ho, hbrings.grows⟩

lemma tame_argumentTypes (arguments : List InputValue) :
    (argumentTypes ctx arguments).Tame ends :=
  tame_dataTypes ctx _ _

lemma tame_ownTypes (head : Head) : (ownTypes ctx operation? head).Tame ends := by
  refine .of_ok fun st => ?_
  obtain ⟨own, st', hown, hbrings⟩ := exists_ownTypes ctx operation? head st
  exact ⟨own, st', hown, hbrings.grows⟩

/-! ## Trees -/

lemma tame_emitClass (plan : ClassPlan) (head : Head) {emitMembers : Frame → Run Members}
    (h : ∀ frame, (emitMembers frame).Tame ends) :
    (emitClass ctx operation? plan head emitMembers).Tame ends := by
  unfold emitClass
  refine (tame_registerClass ctx plan.name).bind fun wasFree => .ite ?_ (.pure ∅)
  refine (tame_childStem ctx plan).bind fun stem => (h _).bind fun members => ?_
  exact (tame_ownTypes ctx operation? head).bind fun own => .pure _

/-- The members of a class can be made if the tree below it is whole. -/
lemma tame_emitBody (body : Body) (frame : Frame) (taken : List String) :
    (emitBody ctx operation? frame taken body).Tame body.IsWhole := by
  induction body generalizing frame taken with
  | done => exact .pure _
  | endless => exact .endless
  | leaf f rest ih =>
    unfold emitBody
    refine (tame_argumentTypes ctx _).bind fun arguments => ?_
    exact (ih frame _).bind fun more => .pure _
  | branch f target below rest ihBelow ihRest =>
    have hbelow : ∀ childFrame, (emitBody ctx operation? childFrame Naming.projectionNames
        below).Tame (Body.branch f target below rest).IsWhole :=
      fun childFrame => (ihBelow childFrame _).weaken fun hwhole => hwhole.1
    unfold emitBody
    refine (tame_argumentTypes ctx _).bind fun arguments => ?_
    refine (tame_claimStem ctx _).bind fun stem => ?_
    refine (tame_emitClass ctx operation? _ _ hbelow).bind fun child => ?_
    exact ((ihRest frame _).weaken fun hwhole => hwhole.2).bind fun more => .pure _
  | fragment target below rest ihBelow ihRest =>
    have hbelow : ∀ childFrame, (emitBody ctx operation? childFrame Naming.projectionNames
        below).Tame (Body.fragment target below rest).IsWhole :=
      fun childFrame => (ihBelow childFrame _).weaken fun hwhole => hwhole.1
    unfold emitBody
    refine (tame_claimStem ctx _).bind fun stem => ?_
    refine (tame_emitClass ctx operation? _ _ hbelow).bind fun child => ?_
    exact ((ihRest frame _).weaken fun hwhole => hwhole.2).bind fun more => .pure _

theorem tame_emitTree (plan : ClassPlan) (t : TypeDef) (selection? : Option Selection) :
    (emitTree ctx operation? plan t selection?).Tame (Ends ctx (.start t.name selection?)) := by
  have hbody : ∀ frame, (emitBody ctx operation? frame Naming.projectionNames
      (Body.grow ctx (.start t.name selection?) [t.name])).Tame
        (Ends ctx (.start t.name selection?)) :=
    fun frame => (tame_emitBody ctx operation? _ frame _).weaken (ends_iff_isWhole ctx _ _).mp
  exact tame_emitClass ctx operation? plan _ hbody

end Projection

open ClientGen.Projection

variable (ctx : Context) {ends : Prop}

/-! ## Root fields -/

/-- The kind of operation that a type is generated for. -/
def rootKind (root : TypeDef) : Document.OperationKind :=
  (ctx.schema.operationKindOf? root.name).getD .query

/-- The position at which the walk for a root field starts, if there is something to be selected
on the field. -/
def rootStart? (root : TypeDef) (f : Field) : Option Position :=
  (ctx.schema.findSelectable? f.typeName).map fun target =>
    .start target.name (rootSelection? (ctx.example? (rootKind ctx root)) root.name f.name)

lemma tame_emitQuery (kind : Document.OperationKind) (f : Field) :
    (emitQuery ctx kind f).Tame ends := by
  unfold emitQuery
  refine (tame_registerClass ctx _).bind fun wasFree => .ite ?_ (.pure ∅)
  exact (tame_argumentTypes ctx _).bind fun types => .pure _

lemma tame_emitRootProjection (root : TypeDef) (f : Field) :
    (emitRootProjection ctx root (ctx.example? (rootKind ctx root)) f).Tame
      (∀ p, rootStart? ctx root f = some p → Ends ctx p) := by
  unfold emitRootProjection rootStart?
  cases ctx.schema.findSelectable? f.typeName with
  | none => exact .pure ∅
  | some target => exact (tame_emitTree ctx _ _ target _).weaken fun hends => hends _ rfl

lemma tame_emitRootFields (root : TypeDef) (fs : List Field) :
    (emitRootFields ctx (rootKind ctx root) root fs).Tame
      (∀ p ∈ fs.filterMap (rootStart? ctx root), Ends ctx p) := by
  induction fs with
  | nil => exact .pure ∅
  | cons f fs ih =>
    unfold emitRootFields
    refine (tame_emitQuery ctx _ f).bind fun query => ?_
    -- the walks of the first field, and those of the others, are among the walks of all
    refine ((tame_emitRootProjection ctx root f).weaken ?_).bind fun projection => ?_
    · intro hends p hp
      exact hends p (List.mem_filterMap.mpr ⟨f, List.mem_cons_self, hp⟩)
    · refine (ih.weaken ?_).bind fun more => .pure _
      intro hends p hp
      obtain ⟨g, hg, hstart⟩ := List.mem_filterMap.mp hp
      exact hends p (List.mem_filterMap.mpr ⟨g, List.mem_cons_of_mem _ hg, hstart⟩)

/-! ## Entities -/

lemma tame_emitEntityFragments (taken : List String) (ts : List TypeDef) :
    (emitEntityFragments ctx taken ts).Tame (∀ t ∈ ts, Ends ctx (.start t.name none)) := by
  induction ts generalizing taken with
  | nil => exact .pure _
  | cons t ts ih =>
    have hfirst := tame_emitTree ctx none (keyPlan t.name) t none
    unfold emitEntityFragments
    refine (hfirst.weaken fun hends => hends t List.mem_cons_self).bind fun made => ?_
    refine ((ih _).weaken fun hends u hu => ?_).bind fun more => .pure _
    exact hends u (List.mem_cons_of_mem _ hu)

/-! ## Calls -/

/-- The positions at which the walks of a call start. No walk starts from a root type with a field
of unknown type. -/
def Call.starts : Call → List Position
  | root type =>
    let fields := (rootFields ctx (rootKind ctx type) type).fields
    match unknownField? ctx.schema fields with
    | some _ => []
    | none => fields.filterMap (rootStart? ctx type)
  | entities definitions =>
    if ctx.config.skipEntities then []
    else (keyedTypes ctx definitions).map fun t => .start t.name none
  | dataType _ _ _ | referenced _ _ => []

theorem tame_generateEntities (definitions : List TypeDef) :
    (generateEntities ctx definitions).Tame
      (∀ p ∈ (Call.entities definitions).starts ctx, Ends ctx p) := by
  unfold generateEntities Call.starts
  cases ctx.config.skipEntities with
  | true => exact .pure ∅
  | false =>
    have hfragments := tame_emitEntityFragments ctx Naming.projectionNames
      (keyedTypes ctx definitions)
    refine .ite (.pure ∅) ?_
    refine (tame_registerClass ctx _).bind fun wasFree => .ite ?_ (.pure ∅)
    refine (hfragments.weaken fun hends t ht => ?_).bind fun made => .pure _
    exact hends _ (List.mem_map_of_mem ht)

/-- A root type with a field of unknown type fails at once. Otherwise its fields are gone through,
one after the other. -/
theorem generateRoot_cases (root : TypeDef) :
    (∃ f, unknownField? ctx.schema (rootFields ctx (rootKind ctx root) root).fields = some f
        ∧ generateRoot ctx root
          = throw (.schema (.unknownRootFieldType root.name f.name f.typeName)))
      ∨ unknownField? ctx.schema (rootFields ctx (rootKind ctx root) root).fields = none
        ∧ generateRoot ctx root = do
            let made ← emitRootFields ctx (rootKind ctx root) root
              (rootFields ctx (rootKind ctx root) root).fields
            return { warnings := (rootFields ctx (rootKind ctx root) root).warnings } ++ made := by
  unfold generateRoot
  dsimp only
  split
  · rename_i f hunknown
    exact .inl ⟨f, hunknown, rfl⟩
  · rename_i hknown
    exact .inr ⟨hknown, rfl⟩

lemma tame_generateRoot {root : TypeDef}
    (hknown : unknownField? ctx.schema (rootFields ctx (rootKind ctx root) root).fields = none) :
    (generateRoot ctx root).Tame (∀ p ∈ (Call.root root).starts ctx, Ends ctx p) := by
  rcases generateRoot_cases ctx root with ⟨f, hunknown, _⟩ | ⟨_, hfields⟩
  · rw [hknown] at hunknown
    cases hunknown
  · rw [hfields, Call.starts, hknown]
    exact (tame_emitRootFields ctx root _).bind fun made => .pure _

namespace Call

lemma tame_or_schemaError (c : Call) :
    (∃ e, c.run ctx = throw (.schema e))
      ∨ (c.run ctx).Tame (∀ p ∈ c.starts ctx, Ends ctx p) := by
  cases c with
  | root type =>
    rcases generateRoot_cases ctx type with ⟨f, _, hthrow⟩ | ⟨hknown, _⟩
    · exact .inl ⟨_, hthrow⟩
    · exact .inr (tame_generateRoot ctx hknown)
  | entities definitions => exact .inr (tame_generateEntities ctx definitions)
  | dataType type selection? package? => exact .inr (tame_dataTypes ctx _ _)
  | referenced typeName package? => exact .inr (tame_dataTypes ctx _ _)

variable {ctx} {c : Call} {st st' : RunState}

/-- A call that fails because of the schema has changed nothing. -/
theorem state_of_schemaError {e : SchemaError} (h : c.run ctx st = .error (.schema e) st') :
    st' = st := by
  rcases tame_or_schemaError ctx c with ⟨e', hthrow⟩ | htame
  · rw [hthrow] at h
    cases h
    rfl
  · cases htame.fails h

/-- A call keeps the names that have been given out, however it comes to its end. -/
theorem grows (ctx : Context) (c : Call) (st : RunState) :
    st.registry.Grows ((c.run ctx).stateAfter st).registry := by
  rcases tame_or_schemaError ctx c with ⟨e, hthrow⟩ | htame
  · rw [hthrow]
    exact .refl _
  · exact htame.grows st

end Call

end ClientGen
