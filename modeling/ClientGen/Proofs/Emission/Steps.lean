import ClientGen.Proofs.Accounts
import ClientGen.Proofs.Walk.Spine

/-!
# How classes are made

A run that makes the methods of a class, read as a derivation: each entry of the tree adds a
method, and a branch or a fragment opens a class of its own before the run goes on to the next
entry. The name of such a class has just been found to be free, so it is always given out.

* `Emits` is the derivation, and `emits_of_emitBody` finds it in a run that succeeds.
* `emitTree_cases` is what there is to know of the run over a tree.
-/

namespace ClientGen.Projection

open ClientGen.Naming (memberName fragmentMethodName projectionNames)

variable {ctx : Context} {operation? : Option String}

/-! ## Opening a class -/

/-- The name of a class has been given out, and the stem below it is known. -/
def Opens (ctx : Context) (plan : ClassPlan) (stem : String) (st ready : RunState) : Prop :=
  ∃ mid, registerClass ctx plan.name st = .ok true mid ∧ plan.childStem ctx mid = .ok stem ready

/-- The stem below a class touches no names. -/
lemma exists_childStem (ctx : Context) (plan : ClassPlan) (st : RunState) :
    ∃ stem st', plan.childStem ctx st = .ok stem st' ∧ st'.registry = st.registry := by
  unfold ClassPlan.childStem
  split
  · exact ⟨_, _, rfl, rfl⟩
  · exact ⟨_, _, rfl, rfl⟩

lemma Opens.registered {plan : ClassPlan} {stem : String} {st ready : RunState}
    (h : Opens ctx plan stem st ready) :
    st.registry.register? (clientName ctx plan.name) = some ready.registry := by
  obtain ⟨mid, hregister, hstem⟩ := h
  obtain ⟨hfree, rfl⟩ := registerClass_eq_true.mp hregister
  obtain ⟨stem', ready', hstem', hsame⟩ := exists_childStem ctx plan
    { st with registry := ⟨clientName ctx plan.name :: st.registry.names⟩ }
  rw [hstem'] at hstem
  cases hstem
  rw [hsame]
  exact Naming.Registry.register?_eq_some.mpr ⟨hfree, rfl⟩

/-- The name of a class that is opened was free before. -/
lemma Opens.free {plan : ClassPlan} {stem : String} {st ready : RunState}
    (h : Opens ctx plan stem st ready) : clientName ctx plan.name ∉ st.registry.names :=
  (Naming.Registry.register?_eq_some.mp h.registered).1

/-! ## One class -/

lemma exists_ownTypes (ctx : Context) (operation? : Option String) (head : Head)
    (st : RunState) :
    ∃ own st', ownTypes ctx operation? head st = .ok own st'
      ∧ BringsTypes ctx st.registry own st'.registry := by
  unfold ownTypes
  cases head.type.kind with
  | object => exact DataTypes.run_spec ctx _ _ st
  | interface => exact DataTypes.run_spec ctx _ _ st
  | _ => exact ⟨∅, st, rfl, .nothing ctx _⟩

/-- A position asks for the data type of its type, or for none. -/
lemma ownTypes_cases {head : Head} {own : Output} {st st' : RunState}
    (h : ownTypes ctx operation? head st = .ok own st') :
    DataTypes.run ctx (DataTypes.operationPackage ctx.config operation?)
        [⟨head.type.name, head.selection?⟩] st = .ok own st'
      ∨ own = ∅ ∧ st' = st := by
  unfold ownTypes at h
  cases hkind : head.type.kind with
  | object | interface =>
    rw [hkind] at h
    exact .inl h
  | union | enum | scalar | input =>
    rw [hkind] at h
    obtain ⟨rfl, rfl⟩ := Run.pure_eq_ok.mp h
    exact .inr ⟨rfl, rfl⟩

lemma bringsTypes_of_ownTypes {head : Head} {own : Output} {st st' : RunState}
    (h : ownTypes ctx operation? head st = .ok own st') :
    BringsTypes ctx st.registry own st'.registry := by
  obtain ⟨own', closed, hown, hbrings⟩ := exists_ownTypes ctx operation? head st
  rw [hown] at h
  cases h
  exact hbrings

lemma bringsTypes_of_argumentTypes {arguments : List InputValue} {types : Output}
    {st st' : RunState} (h : argumentTypes ctx arguments st = .ok types st') :
    BringsTypes ctx st.registry types st'.registry :=
  DataTypes.bringsTypes_of_run h

variable {plan : ClassPlan} {head : Head} {emitMembers : Frame → Run Members}
  {st st' : RunState} {o : Output}

/-- A class whose name is given out is passed over. Any other one is opened, gets its members and
then its data types. -/
lemma emitClass_eq_ok :
    emitClass ctx operation? plan head emitMembers st = .ok o st'
      ↔ clientName ctx plan.name ∈ st.registry.names ∧ o = ∅ ∧ st' = st
        ∨ ∃ stem ready members filled own,
            Opens ctx plan stem st ready
              ∧ emitMembers (plan.frame stem) ready = .ok members filled
              ∧ ownTypes ctx operation? head filled = .ok own st'
              ∧ o = plan.output ctx head members own := by
  unfold emitClass
  rw [Run.bind_eq_ok]
  constructor
  · rintro ⟨wasFree, mid, hregister, h⟩
    cases wasFree with
    | false =>
      obtain ⟨hgiven, rfl⟩ := registerClass_eq_false.mp hregister
      obtain ⟨rfl, rfl⟩ := Run.pure_eq_ok.mp h
      exact .inl ⟨hgiven, rfl, rfl⟩
    | true =>
      obtain ⟨stem, ready, hstem, h⟩ := Run.bind_eq_ok.mp h
      obtain ⟨members, filled, hmembers, h⟩ := Run.bind_eq_ok.mp h
      obtain ⟨own, closed, hown, h⟩ := Run.bind_eq_ok.mp h
      obtain ⟨rfl, rfl⟩ := Run.pure_eq_ok.mp h
      exact .inr ⟨stem, ready, members, filled, own, ⟨mid, hregister, hstem⟩, hmembers, hown, rfl⟩
  · rintro (⟨hgiven, rfl, rfl⟩ | ⟨stem, ready, members, filled, own, hopens, hmembers, hown, rfl⟩)
    · exact ⟨false, st', registerClass_eq_false.mpr ⟨hgiven, rfl⟩, rfl⟩
    · obtain ⟨mid, hregister, hstem⟩ := hopens
      refine ⟨true, mid, hregister, ?_⟩
      show (plan.childStem ctx >>= _) mid = _
      rw [Run.bind_eq_ok]
      refine ⟨stem, ready, hstem, ?_⟩
      rw [Run.bind_eq_ok]
      refine ⟨members, filled, hmembers, ?_⟩
      rw [Run.bind_eq_ok]
      exact ⟨own, st', hown, rfl⟩

/-! ## The derivation -/

/-- The methods of a class are made, with the classes below them, entry after entry. -/
inductive Emits (ctx : Context) (operation? : Option String) :
    Frame → List String → Body → RunState → Members → RunState → Prop where
  | done {frame : Frame} {taken : List String} {st : RunState} :
      Emits ctx operation? frame taken .done st {} st
  | leaf {frame : Frame} {taken : List String} {f : Field} {rest : Body} {members : Members}
      {arguments : Output} {st mid st' : RunState}
      (harguments : argumentTypes ctx f.arguments st = .ok arguments mid)
      (hrest : Emits ctx operation? frame (memberName taken f.name :: taken) rest mid members
        st') :
      Emits ctx operation? frame taken (.leaf f rest) st
        (members.cons (frame.leafMethod ctx (memberName taken f.name) f)
          (ctx.argumentImports f.arguments) ∅ arguments) st'
  | branch {frame : Frame} {taken : List String} {f : Field} {target : Head} {below rest : Body}
      {stem childStem : String} {inner members : Members} {arguments own : Output}
      {st claimed ready filled closed st' : RunState}
      (harguments : argumentTypes ctx f.arguments st = .ok arguments claimed)
      (hstem : stem = freeStem ctx claimed.registry
        (frame.childStem ++ "_" ++ Text.capitalized f.name))
      (hopens : Opens ctx (frame.subPlan stem) childStem claimed ready)
      (hbelow : Emits ctx operation? ((frame.subPlan stem).frame childStem) projectionNames below
        ready inner filled)
      (hown : ownTypes ctx operation? target filled = .ok own closed)
      (hrest : Emits ctx operation? frame (memberName taken f.name :: taken) rest closed members
        st') :
      Emits ctx operation? frame taken (.branch f target below rest) st
        (members.cons (frame.branchMethod ctx (memberName taken f.name) f stem)
          (ctx.argumentImports f.arguments)
          ((frame.subPlan stem).output ctx target inner own) arguments) st'
  | fragment {frame : Frame} {taken : List String} {target : Head} {below rest : Body}
      {stem childStem : String} {inner members : Members} {own : Output}
      {st ready filled closed st' : RunState}
      (hstem : stem = freeStem ctx st.registry
        (frame.childStem ++ "_" ++ Text.capitalized target.type.name))
      (hopens : Opens ctx (frame.fragmentPlan stem) childStem st ready)
      (hbelow : Emits ctx operation? ((frame.fragmentPlan stem).frame childStem) projectionNames
        below ready inner filled)
      (hown : ownTypes ctx operation? target filled = .ok own closed)
      (hrest : Emits ctx operation? frame
        (fragmentMethodName taken target.type.name :: taken) rest closed members st') :
      Emits ctx operation? frame taken (.fragment target below rest) st
        (members.cons
          (frame.fragmentMethod (fragmentMethodName taken target.type.name) target.type.name stem)
          [] ((frame.fragmentPlan stem).output ctx target inner own) ∅) st'

/-- A class whose name has just been claimed is made. -/
private lemma emitClass_claimed {stem : String}
    (hname : plan.name = classOfStem (freeStem ctx st.registry stem))
    (h : emitClass ctx operation? plan head emitMembers st = .ok o st') :
    ∃ childStem ready members filled own,
      Opens ctx plan childStem st ready
        ∧ emitMembers (plan.frame childStem) ready = .ok members filled
        ∧ ownTypes ctx operation? head filled = .ok own st'
        ∧ o = plan.output ctx head members own := by
  rcases emitClass_eq_ok.mp h with ⟨hgiven, _⟩ | h
  · -- the name cannot be given out, as the stem has been chosen for it to be free
    rw [hname] at hgiven
    exact (clientName_freeStem_not_mem ctx st.registry stem hgiven).elim
  · exact h

theorem emits_of_emitBody (body : Body) {frame : Frame} {taken : List String}
    {members : Members} {st st' : RunState}
    (h : emitBody ctx operation? frame taken body st = .ok members st') :
    Emits ctx operation? frame taken body st members st' := by
  induction body generalizing frame taken members st st' with
  | done =>
    obtain ⟨rfl, rfl⟩ := Run.pure_eq_ok.mp h
    exact .done
  | endless =>
    -- such a run fails
    cases h
  | leaf f rest ih =>
    unfold emitBody at h
    obtain ⟨arguments, mid, harguments, h⟩ := Run.bind_eq_ok.mp h
    obtain ⟨more, st'', hrest, h⟩ := Run.bind_eq_ok.mp h
    obtain ⟨rfl, rfl⟩ := Run.pure_eq_ok.mp h
    exact .leaf harguments (ih hrest)
  | branch f target below rest ihBelow ihRest =>
    unfold emitBody at h
    obtain ⟨arguments, claimed, harguments, h⟩ := Run.bind_eq_ok.mp h
    obtain ⟨stem, claimed', hstem, h⟩ := Run.bind_eq_ok.mp h
    -- to claim a stem is to look for it, so the state stays the same
    cases hstem
    obtain ⟨child, closed, hchild, h⟩ := Run.bind_eq_ok.mp h
    obtain ⟨more, st'', hrest, h⟩ := Run.bind_eq_ok.mp h
    obtain ⟨rfl, rfl⟩ := Run.pure_eq_ok.mp h
    obtain ⟨childStem, ready, inner, filled, own, hopens, hbelow, hown, rfl⟩ :=
      emitClass_claimed rfl hchild
    exact .branch harguments rfl hopens (ihBelow hbelow) hown (ihRest hrest)
  | fragment target below rest ihBelow ihRest =>
    unfold emitBody at h
    obtain ⟨stem, claimed, hstem, h⟩ := Run.bind_eq_ok.mp h
    cases hstem
    obtain ⟨child, closed, hchild, h⟩ := Run.bind_eq_ok.mp h
    obtain ⟨more, st'', hrest, h⟩ := Run.bind_eq_ok.mp h
    obtain ⟨rfl, rfl⟩ := Run.pure_eq_ok.mp h
    obtain ⟨childStem, ready, inner, filled, own, hopens, hbelow, hown, rfl⟩ :=
      emitClass_claimed rfl hchild
    exact .fragment rfl hopens (ihBelow hbelow) hown (ihRest hrest)

/-- A run that succeeds has met no fragments without an end. -/
lemma Emits.isWhole {frame : Frame} {taken : List String} {body : Body} {members : Members}
    {st st' : RunState} (h : Emits ctx operation? frame taken body st members st') :
    body.IsWhole := by
  induction h with
  | done => trivial
  | leaf _ _ ih => exact ih
  | branch _ _ _ _ _ _ ihBelow ihRest => exact ⟨ihBelow, ihRest⟩
  | fragment _ _ _ _ _ ihBelow ihRest => exact ⟨ihBelow, ihRest⟩

/-- A tree is passed over if the name of its first class is given out. Otherwise that class is
opened and its members are made. -/
theorem emitTree_cases {t : TypeDef} {selection? : Option Selection}
    (h : emitTree ctx operation? plan t selection? st = .ok o st') :
    clientName ctx plan.name ∈ st.registry.names ∧ o = ∅ ∧ st' = st
      ∨ ∃ stem ready members filled own,
          Opens ctx plan stem st ready
            ∧ Emits ctx operation? (plan.frame stem) projectionNames
                (Body.grow ctx (.start t.name selection?) [t.name]) ready members filled
            ∧ ownTypes ctx operation? (headAt ctx t selection?) filled = .ok own st'
            ∧ o = plan.output ctx (headAt ctx t selection?) members own := by
  rcases emitClass_eq_ok.mp h with hgiven | h
  · exact .inl hgiven
  · obtain ⟨stem, ready, members, filled, own, hopens, hmembers, hown, ho⟩ := h
    exact .inr ⟨stem, ready, members, filled, own, hopens, emits_of_emitBody _ hmembers, hown, ho⟩

end ClientGen.Projection
