import ClientGen.Proofs.Calls.Names
import ClientGen.Proofs.Generation.Explained

/-!
# The trees of a run

A run asks for the root types, one after the other, and then for the entities. Each projection
that comes out stands in a tree: that of a root field, or that of an entity type. Of two root
fields whose classes would have the same name, the first one has it, so the name of a root class
tells its field.

* `after_of_generate` reads a run as calls on one context.
* `Plants` collects the trees of root fields, in the order of the fields, and
  `plants_generateRoots` finds them in a run.
-/

namespace ClientGen

open ClientGen.Projection

/-! ## A run as calls -/

/-- The calls of a run: the root types, and then the entities. -/
def generationCalls (ctx : Context) : List Call :=
  (rootTypes ctx.schema).map .root ++ [.entities (ctx.schema.typesOfKind .object)]

variable {ctx : Context} {o : Output} {st st' : RunState}

private lemma foldl_of_generateRoots {ts : List TypeDef} {h : History}
    (hrun : generateRoots ctx ts h.state = .ok o st') :
    (ts.map Call.root).foldl (History.step ctx) h
      = { h with state := st', total := h.total ++ o } := by
  induction ts generalizing h o st' with
  | nil =>
    obtain ⟨rfl, rfl⟩ := Run.pure_eq_ok.mp hrun
    rw [Output.append_empty]
    rfl
  | cons t ts ih =>
    obtain ⟨made, mid, more, hmade, hmore, rfl⟩ := generateRoots_cons hrun
    have hstep : h.step ctx (.root t) = { h with state := mid, total := h.total ++ made } :=
      History.step_of_ok hmade
    rw [List.map_cons, List.foldl_cons, hstep]
    have hfold := ih (h := { h with state := mid, total := h.total ++ made }) hmore
    rw [hfold, Output.append_assoc]

/-- A run that succeeds takes the root types and the entities apart. -/
lemma exists_of_generate (h : generate ctx = .ok o) :
    ∃ roots mid entities st', generateRoots ctx (rootTypes ctx.schema) {} = .ok roots mid
      ∧ generateEntities ctx (ctx.schema.typesOfKind .object) mid = .ok entities st'
      ∧ o = roots ++ entities := by
  unfold generate at h
  cases hrun : (generateAll ctx).run {} with
  | error e st' => rw [hrun] at h; cases h
  | ok made st' =>
    rw [hrun] at h
    cases h
    unfold generateAll at hrun
    obtain ⟨roots, mid, hroots, hrest⟩ := Run.bind_eq_ok.mp hrun
    obtain ⟨entities, closed, hentities, hout⟩ := Run.bind_eq_ok.mp hrest
    obtain ⟨rfl, rfl⟩ := Run.pure_eq_ok.mp hout
    exact ⟨roots, mid, entities, _, hroots, hentities, rfl⟩

lemma tame_generateRoots {ts : List TypeDef}
    (hknown : ∀ t ∈ ts,
      unknownField? ctx.schema (rootFields ctx (rootKind ctx t) t).fields = none) :
    (generateRoots ctx ts).Tame (∀ t ∈ ts, ∀ p ∈ (Call.root t).starts ctx, Ends ctx p) := by
  induction ts with
  | nil => exact .pure ∅
  | cons t ts ih =>
    have hfirst := tame_generateRoot ctx (hknown t List.mem_cons_self)
    have hrest := ih fun u hu => hknown u (List.mem_cons_of_mem _ hu)
    unfold generateRoots
    refine (hfirst.weaken fun hends => hends t List.mem_cons_self).bind fun made => ?_
    refine (hrest.weaken fun hends u hu => ?_).bind fun more => .pure _
    exact hends u (List.mem_cons_of_mem _ hu)

/-- A run succeeds if all types of root fields are known and all walks end. -/
theorem exists_generate
    (hknown : ∀ t ∈ rootTypes ctx.schema,
      unknownField? ctx.schema (rootFields ctx (rootKind ctx t) t).fields = none)
    (hends : ∀ c ∈ generationCalls ctx, ∀ p ∈ c.starts ctx, Ends ctx p) :
    ∃ o, generate ctx = .ok o := by
  have hroots := tame_generateRoots hknown
  have hentities := tame_generateEntities ctx (ctx.schema.typesOfKind .object)
  have hall : (generateAll ctx).Tame True := by
    refine (hroots.weaken fun _ t ht => ?_).bind fun roots => ?_
    · exact hends _ (List.mem_append_left _ (List.mem_map_of_mem ht))
    · refine (hentities.weaken fun _ => ?_).bind fun entities => .pure _
      exact hends _ (List.mem_append_right _ List.mem_cons_self)
  obtain ⟨o, st', ho⟩ := hall.succeeds trivial {}
  refine ⟨o, ?_⟩
  unfold generate EStateM.run
  rw [ho]

/-- A run succeeds if all types of root fields are known and the members of unions are object
types. -/
lemma exists_generate_of_objectMembers (hnames : (ctx.schema.types.map (·.name)).Nodup)
    (hmembers : ctx.schema.ObjectMembers)
    (hknown : ∀ t ∈ rootTypes ctx.schema,
      unknownField? ctx.schema (rootFields ctx (rootKind ctx t) t).fields = none) :
    ∃ o, generate ctx = .ok o :=
  exists_generate hknown fun c _ => Call.walks_end hnames hmembers c

/-- What a run makes is what its calls make, one after the other on one context. -/
lemma after_generationCalls {roots entities : Output} {mid : RunState}
    (hroots : generateRoots ctx (rootTypes ctx.schema) {} = .ok roots mid)
    (hentities : generateEntities ctx (ctx.schema.typesOfKind .object) mid = .ok entities st') :
    History.after ctx (generationCalls ctx) = { state := st', total := roots ++ entities } := by
  have hfold := foldl_of_generateRoots (h := {}) hroots
  unfold History.after generationCalls
  rw [List.foldl_append, hfold]
  exact History.step_of_ok hentities

theorem after_of_generate (h : generate ctx = .ok o) :
    ∃ st', History.after ctx (generationCalls ctx) = { state := st', total := o } := by
  obtain ⟨roots, mid, entities, st', hroots, hentities, rfl⟩ := exists_of_generate h
  exact ⟨st', after_generationCalls hroots hentities⟩

lemma balanced_of_generate (h : generate ctx = .ok o) : o.Balanced ctx := by
  obtain ⟨st', hafter⟩ := after_of_generate h
  have hconsistent := History.consistent_after ctx (generationCalls ctx)
  rw [hafter] at hconsistent
  exact ⟨hconsistent.nodup_projections, hconsistent.links⟩

/-! ## Trees of root fields -/

/-- The qualified name of the root class of a root field. -/
def rootName (ctx : Context) (item : TypeDef × Field) : String :=
  clientName ctx (rootPlan item.2.name).name

/-- The example operation that shapes the classes of a root type, if it has a name. -/
def operationOf? (ctx : Context) (root : TypeDef) : Option String :=
  (ctx.example? (rootKind ctx root)).bind (·.name?)

/-- The class stands in the tree of a root field; the output has the whole tree, and the names that
it has given out are kept. -/
def InRootTree (ctx : Context) (made : Output) (r : Naming.Registry) (item : TypeDef × Field)
    (d : ProjectionClass) : Prop :=
  ∃ target tree st st',
    ctx.schema.findSelectable? item.2.typeName = some target
      ∧ emitTree ctx (operationOf? ctx item.1) (rootPlan item.2.name) target
          (rootSelection? (ctx.example? (rootKind ctx item.1)) item.1.name item.2.name) st
          = .ok tree st'
      ∧ d ∈ tree.projections ∧ (∀ e ∈ tree.projections, e ∈ made.projections)
      ∧ st'.registry.names ⊆ r.names

lemma InRootTree.mono {a b : Output} {r r' : Naming.Registry} {item : TypeDef × Field}
    {d : ProjectionClass} (h : InRootTree ctx a r item d)
    (hsub : ∀ e ∈ a.projections, e ∈ b.projections) (hkeeps : r.names ⊆ r'.names) :
    InRootTree ctx b r' item d := by
  obtain ⟨target, tree, st, st', hfind, htree, hd, hall, hgiven⟩ := h
  exact ⟨target, tree, st, st', hfind, htree, hd, fun e he => hsub e (hall e he),
    fun _ hn => hkeeps (hgiven hn)⟩

/-- The projections that come out are the trees of some root fields. Each tree is that of the first
of them with its name. -/
structure Plants (ctx : Context) (items : List (TypeDef × Field)) (st : RunState) (made : Output)
    (st' : RunState) : Prop where
  keeps : st.registry.names ⊆ st'.registry.names
  taken : ∀ item ∈ items, rootName ctx item ∈ st'.registry.names
  grown : ∀ d ∈ made.projections, ∃ before item after,
    items = before ++ item :: after
      ∧ rootName ctx item ∉ st.registry.names
      ∧ (∀ other ∈ before, rootName ctx other ≠ rootName ctx item)
      ∧ InRootTree ctx made st'.registry item d

namespace Plants

variable {items others : List (TypeDef × Field)} {mid : RunState} {a b : Output}

lemma of_none (hkeeps : st.registry.names ⊆ st'.registry.names) (hnone : a.projections = []) :
    Plants ctx [] st a st' := by
  refine ⟨hkeeps, fun _ h => absurd h List.not_mem_nil, fun d hd => ?_⟩
  rw [hnone] at hd
  cases hd

lemma append (h : Plants ctx items st a mid) (h' : Plants ctx others mid b st') :
    Plants ctx (items ++ others) st (a ++ b) st' := by
  refine ⟨fun n hn => h'.keeps (h.keeps hn), fun item hitem => ?_, fun d hd => ?_⟩
  · rcases List.mem_append.mp hitem with hitem | hitem
    · exact h'.keeps (h.taken item hitem)
    · exact h'.taken item hitem
  · rcases List.mem_append.mp hd with hd | hd
    · obtain ⟨before, item, after, rfl, hfree, hfirst, htree⟩ := h.grown d hd
      refine ⟨before, item, after ++ others, ?_, hfree, hfirst, ?_⟩
      · rw [List.append_assoc]
        rfl
      · exact htree.mono (fun e he => List.mem_append_left _ he) h'.keeps
    · -- a tree of the second part comes after all items of the first
      obtain ⟨before, item, after, rfl, hfree, hfirst, htree⟩ := h'.grown d hd
      refine ⟨items ++ before, item, after, ?_, fun hn => hfree (h.keeps hn), ?_, ?_⟩
      · rw [List.append_assoc]
      · intro other hother
        rcases List.mem_append.mp hother with hother | hother
        · -- the name of an earlier tree is given out by now
          exact fun hname => hfree (hname ▸ h.taken other hother)
        · exact hfirst other hother
      · exact htree.mono (fun e he => List.mem_append_right _ he) (List.Subset.refl _)

end Plants

lemma mem_names_of_mem_projections {d : ProjectionClass} (h : d ∈ o.projections) :
    (GeneratedClass.projection d).qualifiedName ∈ o.names := by
  have hclass : GeneratedClass.projection d ∈ o.classes :=
    List.mem_append_left _ (List.mem_append_right _ (List.mem_map_of_mem h))
  exact List.mem_append_left _ (List.mem_map_of_mem hclass)

/-- After a tree the name of its first class is given out; and if there are classes in it, that
name was free before. -/
lemma name_of_emitTree {operation? : Option String} {plan : ClassPlan} {t : TypeDef}
    (hplan : plan.StartsTree t) {selection? : Option Selection}
    (h : emitTree ctx operation? plan t selection? st = .ok o st') :
    clientName ctx plan.name ∈ st'.registry.names
      ∧ ∀ d ∈ o.projections, clientName ctx plan.name ∉ st.registry.names := by
  have hsound := sound_emitTree hplan h
  rcases emitTree_cases h with ⟨hgiven, rfl, rfl⟩ | h
  · exact ⟨hgiven, fun d hd => absurd hd List.not_mem_nil⟩
  · obtain ⟨stem, ready, members, filled, own, hopens, _, _, rfl⟩ := h
    have hmade : clientName ctx plan.name
        ∈ (plan.output ctx (headAt ctx t selection?) members own).names :=
      mem_names_of_mem_projections (mem_output ctx plan (headAt ctx t selection?) members own)
    -- what has come out has been registered
    exact ⟨(hsound.accounts.mem_iff _).mpr (.inl hmade), fun _ _ => hopens.free⟩

lemma projections_of_emitQuery {kind : Document.OperationKind} {f : Field}
    (h : emitQuery ctx kind f st = .ok o st') : o.projections = [] := by
  rcases emitQuery_cases h with ⟨_, rfl, _⟩ | ⟨_, types, htypes, rfl⟩
  · rfl
  · rw [Output.projections_append, (bringsTypes_of_argumentTypes htypes).projections]
    rfl

lemma plants_emitRootProjection {root : TypeDef} {f : Field}
    (h : emitRootProjection ctx root (ctx.example? (rootKind ctx root)) f st = .ok o st') :
    Plants ctx (itemsOf ctx root [f]) st o st' := by
  have hkeeps := (tame_emitRootProjection ctx root f).grows_of_ok h
  rcases emitRootProjection_cases h with ⟨hfind, rfl, _⟩ | ⟨target, hfind, htree⟩
  · rw [itemsOf_of_none hfind]
    exact .of_none hkeeps.keeps.subset rfl
  · rw [itemsOf_of_some hfind]
    obtain ⟨htaken, hfree⟩ := name_of_emitTree (.inl rfl) htree
    refine ⟨hkeeps.keeps.subset, fun item hitem => ?_, fun d hd => ?_⟩
    · obtain rfl := List.mem_singleton.mp hitem
      exact htaken
    · exact ⟨[], (root, f), [], rfl, hfree d hd, fun _ h => absurd h List.not_mem_nil, target, o,
        st, st', hfind, htree, hd, fun _ he => he, List.Subset.refl _⟩

lemma plants_emitRootFields {root : TypeDef} {fs : List Field}
    (h : emitRootFields ctx (rootKind ctx root) root fs st = .ok o st') :
    Plants ctx (itemsOf ctx root fs) st o st' := by
  induction fs generalizing st o st' with
  | nil =>
    obtain ⟨rfl, rfl⟩ := Run.pure_eq_ok.mp h
    exact .of_none (fun _ hn => hn) rfl
  | cons f fs ih =>
    obtain ⟨query, asked, projection, grown, more, hquery, hprojection, hmore, rfl⟩ :=
      emitRootFields_cons h
    have hkept : (emitQuery ctx (rootKind ctx root) f).Tame True := tame_emitQuery ctx _ f
    have hasked : Plants ctx [] st query asked :=
      .of_none (hkept.grows_of_ok hquery).keeps.subset (projections_of_emitQuery hquery)
    rw [itemsOf_cons]
    exact (hasked.append (plants_emitRootProjection hprojection)).append (ih hmore)

lemma plants_generateRoots {ts : List TypeDef}
    (h : generateRoots ctx ts st = .ok o st') :
    Plants ctx (ts.flatMap fun root =>
      itemsOf ctx root (rootFields ctx (rootKind ctx root) root).fields) st o st' := by
  induction ts generalizing st o st' with
  | nil =>
    obtain ⟨rfl, rfl⟩ := Run.pure_eq_ok.mp h
    exact .of_none (fun _ hn => hn) rfl
  | cons t ts ih =>
    obtain ⟨made, mid, more, hmade, hmore, rfl⟩ := generateRoots_cons h
    obtain ⟨_, fields, hfields, rfl⟩ := generateRoot_of_ok hmade
    have hwarned : Plants ctx [] st
        { warnings := (rootFields ctx (rootKind ctx t) t).warnings } st :=
      .of_none (fun _ hn => hn) rfl
    rw [List.flatMap_cons]
    exact (hwarned.append (plants_emitRootFields hfields)).append (ih hmore)

end ClientGen
