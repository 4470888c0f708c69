import ClientGen.Proofs.Emission.Returned

/-!
# The first class of a tree and the others

The first class of a tree is its root, or the fragment on an entity type. All other classes of the
tree stand below it: they are classes of fields, or of fragments that ask for the name of their
type, and each is named after the stem of its parent, an underscore and what leads to it.

* `standsBelow_of_emits` is the induction over the walk.
* `projections_of_emitTree` takes the projections of a tree apart.
-/

namespace ClientGen

/-- A class of a field or a fragment, other than the first class of a tree. -/
structure ProjectionClass.StandsBelow (c : ProjectionClass) : Prop where
  kind : c.base = .sub ∨ c.base = .fragment ∧ c.includeTypename = true
  name : ∃ stem, '_' ∈ stem.toList ∧ c.name = Projection.classOfStem stem

namespace ProjectionClass.StandsBelow

variable {c : ProjectionClass}

lemma base_ne_root (h : c.StandsBelow) : c.base ≠ .root := by
  rcases h.kind with hbase | ⟨hbase, _⟩ <;> rw [hbase] <;> decide

/-- The fragments on entity types do not ask for the name of the type. -/
lemma isKeyFragment (h : c.StandsBelow) : c.isKeyFragment = false := by
  unfold ProjectionClass.isKeyFragment
  rcases h.kind with hbase | ⟨_, htypename⟩
  · rw [hbase]
    rfl
  · rw [htypename, Bool.not_true, Bool.and_false]
    rfl

lemma exists_arrival (h : c.StandsBelow) : ∃ link, c.arrival? = some link := by
  unfold ProjectionClass.arrival?
  exact ⟨_, if_pos h.kind⟩

end ProjectionClass.StandsBelow

namespace Projection

variable {ctx : Context} {operation? : Option String} {st st' : RunState} {o : Output}

/-- Underscores are only added to a stem. -/
lemma mem_firstFree {c : Char} {isTaken : String → Bool} {s : String} (h : c ∈ s.toList)
    (more : ℕ) : c ∈ (Naming.firstFree isTaken more s).toList := by
  induction more generalizing s with
  | zero => exact h
  | succ more ih =>
    unfold Naming.firstFree
    split
    · exact ih (by rw [String.toList_append]; exact List.mem_append_left _ h)
    · exact h

/-- The stem of a class below another one has an underscore. -/
lemma underscore_mem_freeStem (r : Naming.Registry) (stem step : String) :
    '_' ∈ (freeStem ctx r (stem ++ "_" ++ step)).toList := by
  apply mem_firstFree
  rw [String.toList_append, String.toList_append]
  exact List.mem_append_left _ (List.mem_append_right _ List.mem_cons_self)

/-- Where a class with all that comes with it is the child of another one, all its classes stand
below. -/
private lemma standsBelow_output {plan : ClassPlan} {head : Head} {members : Members}
    {own : Output} (hown : own.projections = []) (harguments : members.arguments.projections = [])
    (hmade : (plan.made ctx head members).StandsBelow)
    (hbelow : ∀ d ∈ members.below.projections, d.StandsBelow) :
    ∀ d ∈ (plan.output ctx head members own).projections, d.StandsBelow := by
  rw [projections_output plan head members hown harguments]
  intro d hd
  rcases List.mem_cons.mp hd with rfl | hd
  · exact hmade
  · exact hbelow d hd

theorem standsBelow_of_emits {frame : Frame} {taken : List String} {body : Body}
    {members : Members} (h : Emits ctx operation? frame taken body st members st') :
    ∀ d ∈ members.below.projections, d.StandsBelow := by
  induction h with
  | done => intro d hd; cases hd
  | leaf _ _ ih => exact ih
  | branch _ hstem _ hbelow hown _ ihBelow ihRest =>
    intro d hd
    rcases List.mem_append.mp hd with hd | hd
    · exact standsBelow_output (bringsTypes_of_ownTypes hown).projections
        (arguments_of_emits hbelow)
        ⟨.inl rfl, _, hstem ▸ underscore_mem_freeStem _ _ _, rfl⟩ ihBelow d hd
    · exact ihRest d hd
  | fragment hstem _ hbelow hown _ ihBelow ihRest =>
    intro d hd
    rcases List.mem_append.mp hd with hd | hd
    · exact standsBelow_output (bringsTypes_of_ownTypes hown).projections
        (arguments_of_emits hbelow)
        ⟨.inr ⟨rfl, rfl⟩, _, hstem ▸ underscore_mem_freeStem _ _ _, rfl⟩ ihBelow d hd
    · exact ihRest d hd

/-- A tree is passed over if the name of its first class is given out. Otherwise its projections are
that class and the classes below it. -/
theorem projections_of_emitTree {plan : ClassPlan} {t : TypeDef} {selection? : Option Selection}
    (h : emitTree ctx operation? plan t selection? st = .ok o st') :
    clientName ctx plan.name ∈ st.registry.names ∧ o = ∅ ∧ st' = st
      ∨ clientName ctx plan.name ∉ st.registry.names
        ∧ ∃ members : Members,
          o.projections
              = plan.made ctx (headAt ctx t selection?) members :: members.below.projections
            ∧ ∀ d ∈ members.below.projections, d.StandsBelow := by
  rcases emitTree_cases h with hgiven | hmade
  · exact .inl hgiven
  · obtain ⟨stem, ready, members, filled, own, hopens, hemits, hown, rfl⟩ := hmade
    refine .inr ⟨hopens.free, members, ?_, standsBelow_of_emits hemits⟩
    exact projections_output _ _ members (bringsTypes_of_ownTypes hown).projections
      (arguments_of_emits hemits)

end Projection

end ClientGen
