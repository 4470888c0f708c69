import ClientGen.Proofs.Emission.Links
import ClientGen.Proofs.Emission.Tame
import ClientGen.Proofs.Walk.Ending

/-!
# Which calls come to their end

A call walks from the types of its root fields, or from the entity types. Each of these walks is
finite unless it meets a type that fragments narrow to itself; then it goes on for ever, with a
free name for every class on the way. A cycle through fields does no harm, as its edge is passed
once.

* `emitTree_endless_iff` ties the failure of a run to the infinite chains of its walk.
* `walks_end_iff_no_return` is the exact condition on a call, and `Call.walks_end` says that
  schemas whose unions have only object types as members meet it.
* `friends` and `returningUnion` are two schemas that lead back to themselves: on the one the walk
  ends, on the other it has no end.
-/

namespace ClientGen

open ClientGen.Projection

/-! ## Trees -/

namespace Projection

variable {ctx : Context} {operation? : Option String}

/-- Where the name of the first class is free, a tree fails exactly if the walk has no end. -/
theorem emitTree_endless_iff {plan : ClassPlan} {t : TypeDef} {selection? : Option Selection}
    {st : RunState} (hfree : clientName ctx plan.name ∉ st.registry.names) :
    (∃ st', emitTree ctx operation? plan t selection? st = .error .endlessFragments st')
      ↔ ¬ Ends ctx (.start t.name selection?) := by
  constructor
  · rintro ⟨st', hfail⟩ hends
    -- a walk that ends makes the run succeed, which it does not
    obtain ⟨o, closed, hok⟩ := (tame_emitTree ctx operation? plan t selection?).succeeds hends st
    rw [hok] at hfail
    cases hfail
  · intro hends
    cases hrun : emitTree ctx operation? plan t selection? st with
    | error e st' =>
      obtain rfl := (tame_emitTree ctx operation? plan t selection?).fails hrun
      exact ⟨st', rfl⟩
    | ok o st' =>
      -- the derivation of a run that succeeds shows that its tree is whole
      rcases emitTree_cases hrun with ⟨hgiven, _⟩ | ⟨_, _, _, _, _, _, hemits, _⟩
      · exact (hfree hgiven).elim
      · exact (hends ((ends_iff_isWhole ctx t.name selection?).mpr hemits.isWhole)).elim

end Projection

/-! ## Calls that come back -/

variable {ctx : Context}

/-- A call whose walks all end comes back. -/
lemma Call.run_ne_endless {c : Call} (h : ∀ p ∈ c.starts ctx, Ends ctx p) (st st' : RunState) :
    c.run ctx st ≠ .error .endlessFragments st' := by
  intro hfail
  rcases Call.tame_or_schemaError ctx c with ⟨e, hthrow⟩ | htame
  · rw [hthrow] at hfail
    cases hfail
  · obtain ⟨o, closed, hok⟩ := htame.succeeds h st
    rw [hok] at hfail
    cases hfail

/-- Calls whose walks all end come back. -/
theorem History.endless_not_mem_failures {cs : List Call}
    (h : ∀ c ∈ cs, ∀ p ∈ c.starts ctx, Ends ctx p) :
    .endlessFragments ∉ (History.after ctx cs).failures := by
  unfold History.after
  refine List.foldlRecOn (motive := fun history : History => .endlessFragments ∉ history.failures)
    cs _ ?_ fun history hbefore c hc => ?_
  · exact List.not_mem_nil
  · -- one more call adds at most its own failure
    unfold History.step
    cases hrun : c.run ctx history.state with
    | ok o st' => exact hbefore
    | error e st' =>
      intro hmem
      rcases List.mem_append.mp hmem with hmem | hmem
      · exact hbefore hmem
      · obtain rfl := List.mem_singleton.mp hmem
        exact Call.run_ne_endless (h c hc) _ _ hrun

/-! ## One walk -/

lemma ends_iff_of_starts {c : Call} {p : Position} (h : p ∈ c.starts ctx) :
    Ends ctx p ↔ ¬ MeetsReturn ctx p := by
  -- each walk starts at a type, with no edge passed
  have hstart : ∃ name selection?, p = .start name selection? := by
    cases c with
    | root type =>
      rw [Call.starts] at h
      split at h
      · cases h
      · obtain ⟨f, _, hf⟩ := List.mem_filterMap.mp h
        obtain ⟨target, _, rfl⟩ := Option.map_eq_some_iff.mp hf
        exact ⟨_, _, rfl⟩
    | entities definitions =>
      rw [Call.starts] at h
      split at h
      · cases h
      · obtain ⟨t, _, rfl⟩ := List.mem_map.mp h
        exact ⟨_, _, rfl⟩
    | dataType => cases h
    | referenced => cases h
  obtain ⟨name, selection?, rfl⟩ := hstart
  exact ends_iff_not_meetsReturn ctx name selection?

/-! ## Schemas on which all walks end -/

/-- The members of unions are object types, as the language asks for. Nothing checks it. -/
def Schema.ObjectMembers (s : Schema) : Prop :=
  ∀ t ∈ s.types, t.kind = .union → ∀ m ∈ s.unionMembers t.name, m.kind = .object

instance (s : Schema) : Decidable s.ObjectMembers :=
  inferInstanceAs (Decidable (∀ t ∈ s.types, t.kind = .union →
    ∀ m ∈ s.unionMembers t.name, m.kind = .object))

/-- Fragments are on object types. -/
lemma kind_of_mem_narrowingsAt (h : ctx.schema.ObjectMembers) {p : Position} {c : TypeDef}
    (hc : c ∈ narrowingsAt ctx p) : c.kind = .object := by
  unfold narrowingsAt at hc
  split at hc
  · cases hc
  · rename_i t ht
    have hconcrete := Config.mem_of_mem_selectConcreteTypes hc
    unfold Schema.concreteTypes at hconcrete
    split at hconcrete
    · -- behind an interface
      obtain ⟨_, himplements⟩ := List.mem_filter.mp hconcrete
      exact of_decide_eq_true (Bool.and_eq_true_iff.mp himplements).1
    · rename_i hunion
      exact h t (Schema.findType?_mem ht) hunion c hconcrete
    · cases hconcrete

/-- An object type has no fragments. -/
lemma not_narrowsTo_of_object {t : TypeDef} {name u : String}
    (ht : ctx.schema.findType? name = some t) (hkind : t.kind = .object) :
    ¬ NarrowsTo ctx name u := by
  rintro ⟨c, hc, _⟩
  unfold narrowingsAt Position.start at hc
  rw [ht] at hc
  have hconcrete := Config.mem_of_mem_selectConcreteTypes hc
  unfold Schema.concreteTypes at hconcrete
  rw [hkind] at hconcrete
  cases hconcrete

/-- Where no two types have the same name and the members of unions are object types, all walks of
a call end. -/
theorem Call.walks_end (hnames : (ctx.schema.types.map (·.name)).Nodup)
    (h : ctx.schema.ObjectMembers) (c : Call) : ∀ p ∈ c.starts ctx, Ends ctx p := by
  intro p hp
  rw [ends_iff_of_starts hp]
  rintro ⟨q, _, _, hreturn⟩
  -- the type is narrowed to, so it is an object type, and it is narrowed, so it is none
  obtain ⟨v, _, c, hc, hname⟩ := Relation.TransGen.tail'_iff.mp hreturn
  obtain ⟨w, hfirst, _⟩ := Relation.TransGen.head'_iff.mp hreturn
  have hfind : ctx.schema.findType? c.name = some c :=
    find?_eq_some hnames (mem_types_of_mem_narrowingsAt hc)
  exact not_narrowsTo_of_object (hname ▸ hfind) (kind_of_mem_narrowingsAt h hc) hfirst

/-! ## The exact condition -/

/-- The walks of a call are finite exactly if none of them meets, without a selection, a type that
fragments narrow to itself; and then the call comes back. -/
theorem walks_end_iff_no_return (ctx : Context) (c : Call) :
    ((∀ p ∈ c.starts ctx, Ends ctx p) ↔ ∀ p ∈ c.starts ctx, ¬ MeetsReturn ctx p)
      ∧ ((∀ p ∈ c.starts ctx, Ends ctx p) →
          ∀ st st', c.run ctx st ≠ .error .endlessFragments st') := by
  constructor
  · constructor
    · exact fun h p hp => (ends_iff_of_starts hp).mp (h p hp)
    · exact fun h p hp => (ends_iff_of_starts hp).mpr (h p hp)
  · exact fun h st st' => Call.run_ne_endless h st st'

/-! ## Two schemas -/

/-- A field without arguments. -/
def plainField (name typeName : String) : Field :=
  { name
    typeName
    isList := false
    isOptional := true
    description? := none
    arguments := []
    directives := [] }

/-- An argument that may be left out. -/
def plainArgument (name typeName : String) : InputValue :=
  { name
    typeName
    isList := false
    isOptional := true
    default? := none
    description? := none }

/-- A query type with one field. -/
def queryType (field : Field) : TypeDef where
  name := "Query"
  kind := .object
  fields := [field]

/-- An entity type, with its key. -/
def keyedType (name : String) : TypeDef where
  name
  kind := .object
  fields := [plainField "id" "ID"]
  directives := [{ name := "key", arguments := [] }]

/-- The setting of `type Query { me: Person }` and `type Person { friend: Person }`, with nothing
configured. -/
def friends : Context where
  schema :=
    { types :=
        [queryType (plainField "me" "Person"),
         { name := "Person", kind := .object, fields := [plainField "friend" "Person"] }] }

/-- The walk over a type with a field of its own type ends, and the call comes back. -/
theorem walks_end_iff_no_return_friends :
    let c := Call.root (queryType (plainField "me" "Person"))
    (∀ p ∈ c.starts friends, Ends friends p)
      ∧ ∀ st st', c.run friends st ≠ .error .endlessFragments st' := by
  intro c
  have hends : ∀ p ∈ c.starts friends, Ends friends p := Call.walks_end (by decide) (by decide) c
  exact ⟨hends, (walks_end_iff_no_return friends c).2 hends⟩

/-- The setting of `type Query { u: U }` and `union U = U`, with nothing configured. -/
def returningUnion : Context where
  schema :=
    { types :=
        [queryType (plainField "u" "U"), { name := "U", kind := .union, members := ["U"] }] }

/-- Asked for its query type, the walk over a union that is a member of itself never ends. -/
theorem returningUnion_not_ends :
    ∃ p ∈ (Call.root (queryType (plainField "u" "U"))).starts returningUnion,
      ¬ Ends returningUnion p := by
  have hstart : Position.start "U" none
      ∈ (Call.root (queryType (plainField "u" "U"))).starts returningUnion := by
    rw [Call.starts]
    exact List.mem_cons_self
  have hmember : NarrowsTo returningUnion "U" "U" := ⟨_, List.mem_cons_self, rfl⟩
  have hreturn : MeetsReturn returningUnion (.start "U" none) :=
    ⟨.start "U" none, .refl, rfl, .single hmember⟩
  exact ⟨.start "U" none, hstart, not_ends_of_meetsReturn hreturn⟩

end ClientGen
