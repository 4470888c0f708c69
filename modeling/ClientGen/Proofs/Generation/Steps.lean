import ClientGen.Proofs.Emission.Tame

/-!
# How root fields and entities are gone through

A run that succeeds, read back one step at a time: a root field has its query class, with the data
types of its arguments, and its tree; an entity type has the tree of its key. What is passed over
leaves the state as it was.

There is one statement for each part of a run. What is said of whole runs elsewhere goes through
these, so that a part of a run is taken to pieces in one place only. `holds_of_emitRootFields` and
`holds_of_emitEntityFragments` are for what is said of outputs alone, whatever the state is.
-/

namespace ClientGen

open ClientGen.Projection

variable {ctx : Context} {st st' : RunState} {o : Output}

/-! ## Root fields -/

/-- A query class whose name is given out is passed over. Any other one is made, with the data types
of its arguments. -/
lemma emitQuery_cases {kind : Document.OperationKind} {f : Field}
    (h : emitQuery ctx kind f st = .ok o st') :
    clientName ctx (queryName f.name) ∈ st.registry.names ∧ o = ∅ ∧ st' = st
      ∨ clientName ctx (queryName f.name) ∉ st.registry.names
        ∧ ∃ types, argumentTypes ctx f.arguments
            { st with registry := ⟨clientName ctx (queryName f.name) :: st.registry.names⟩ }
            = .ok types st'
          ∧ o = { queries := [queryClass ctx kind f] } ++ types := by
  unfold emitQuery at h
  obtain ⟨wasFree, mid, hregister, hthen⟩ := Run.bind_eq_ok.mp h
  cases wasFree with
  | false =>
    obtain ⟨hgiven, rfl⟩ := registerClass_eq_false.mp hregister
    obtain ⟨rfl, rfl⟩ := Run.pure_eq_ok.mp hthen
    exact .inl ⟨hgiven, rfl, rfl⟩
  | true =>
    obtain ⟨hfree, rfl⟩ := registerClass_eq_true.mp hregister
    obtain ⟨types, closed, htypes, hout⟩ := Run.bind_eq_ok.mp hthen
    obtain ⟨rfl, rfl⟩ := Run.pure_eq_ok.mp hout
    exact .inr ⟨hfree, types, htypes, rfl⟩

/-- A root field has a tree if there is something to be selected on it. -/
lemma emitRootProjection_cases {root : TypeDef} {example? : Option ExampleOperation} {f : Field}
    (h : emitRootProjection ctx root example? f st = .ok o st') :
    ctx.schema.findSelectable? f.typeName = none ∧ o = ∅ ∧ st' = st
      ∨ ∃ target, ctx.schema.findSelectable? f.typeName = some target
          ∧ emitTree ctx (example?.bind (·.name?)) (rootPlan f.name) target
            (rootSelection? example? root.name f.name) st = .ok o st' := by
  unfold emitRootProjection at h
  cases hfind : ctx.schema.findSelectable? f.typeName with
  | none =>
    rw [hfind] at h
    obtain ⟨rfl, rfl⟩ := Run.pure_eq_ok.mp h
    exact .inl ⟨rfl, rfl, rfl⟩
  | some target =>
    rw [hfind] at h
    exact .inr ⟨target, rfl, h⟩

lemma emitRootFields_cons {kind : Document.OperationKind} {root : TypeDef} {f : Field}
    {fs : List Field} (h : emitRootFields ctx kind root (f :: fs) st = .ok o st') :
    ∃ query asked projection grown more, emitQuery ctx kind f st = .ok query asked
      ∧ emitRootProjection ctx root (ctx.example? kind) f asked = .ok projection grown
      ∧ emitRootFields ctx kind root fs grown = .ok more st'
      ∧ o = query ++ projection ++ more := by
  unfold emitRootFields at h
  obtain ⟨query, asked, hquery, h⟩ := Run.bind_eq_ok.mp h
  obtain ⟨projection, grown, hprojection, h⟩ := Run.bind_eq_ok.mp h
  obtain ⟨more, closed, hmore, h⟩ := Run.bind_eq_ok.mp h
  obtain ⟨rfl, rfl⟩ := Run.pure_eq_ok.mp h
  exact ⟨query, asked, projection, grown, more, hquery, hprojection, hmore, rfl⟩

/-- What holds of the query class and of the tree of each root field, and is kept when outputs are
put together, holds of all that the root fields bring. -/
lemma holds_of_emitRootFields {P : Output → Prop} (hempty : P ∅)
    (happend : ∀ {a b}, P a → P b → P (a ++ b)) {kind : Document.OperationKind} {root : TypeDef}
    {fs : List Field}
    (hquery : ∀ f ∈ fs, ∀ {o : Output} {st st' : RunState},
      emitQuery ctx kind f st = .ok o st' → P o)
    (hprojection : ∀ f ∈ fs, ∀ {o : Output} {st st' : RunState},
      emitRootProjection ctx root (ctx.example? kind) f st = .ok o st' → P o)
    (h : emitRootFields ctx kind root fs st = .ok o st') : P o := by
  induction fs generalizing st o st' with
  | nil =>
    obtain ⟨rfl, _⟩ := Run.pure_eq_ok.mp h
    exact hempty
  | cons f fs ih =>
    obtain ⟨query, asked, projection, grown, more, hasked, hgrown, hmore, rfl⟩ :=
      emitRootFields_cons h
    obtain ⟨hfirst, hqueries⟩ := List.forall_mem_cons.mp hquery
    obtain ⟨hsecond, hprojections⟩ := List.forall_mem_cons.mp hprojection
    exact happend (happend (hfirst hasked) (hsecond hgrown)) (ih hqueries hprojections hmore)

/-- A root type of which classes are made has fields of known types only. -/
lemma generateRoot_of_ok {root : TypeDef} (h : generateRoot ctx root st = .ok o st') :
    unknownField? ctx.schema (rootFields ctx (rootKind ctx root) root).fields = none
      ∧ ∃ made, emitRootFields ctx (rootKind ctx root) root
          (rootFields ctx (rootKind ctx root) root).fields st = .ok made st'
        ∧ o = { warnings := (rootFields ctx (rootKind ctx root) root).warnings } ++ made := by
  rcases generateRoot_cases ctx root with ⟨f, _, hthrow⟩ | ⟨hknown, hfields⟩
  · rw [hthrow] at h
    cases h
  · rw [hfields] at h
    obtain ⟨made, closed, hmade, h⟩ := Run.bind_eq_ok.mp h
    obtain ⟨rfl, rfl⟩ := Run.pure_eq_ok.mp h
    exact ⟨hknown, made, hmade, rfl⟩

lemma generateRoots_cons {t : TypeDef} {ts : List TypeDef}
    (h : generateRoots ctx (t :: ts) st = .ok o st') :
    ∃ made mid more, generateRoot ctx t st = .ok made mid
      ∧ generateRoots ctx ts mid = .ok more st' ∧ o = made ++ more := by
  unfold generateRoots at h
  obtain ⟨made, mid, hmade, h⟩ := Run.bind_eq_ok.mp h
  obtain ⟨more, closed, hmore, h⟩ := Run.bind_eq_ok.mp h
  obtain ⟨rfl, rfl⟩ := Run.pure_eq_ok.mp h
  exact ⟨made, mid, more, hmade, hmore, rfl⟩

/-! ## Entities -/

lemma emitEntityFragments_nil {taken : List String} {methods : List Method}
    (h : emitEntityFragments ctx taken [] st = .ok (methods, o) st') :
    methods = [] ∧ o = ∅ ∧ st' = st := by
  obtain ⟨hnone, rfl⟩ := Run.pure_eq_ok.mp h
  cases hnone
  exact ⟨rfl, rfl, rfl⟩

lemma emitEntityFragments_cons {taken : List String} {t : TypeDef} {ts : List TypeDef}
    {methods : List Method}
    (h : emitEntityFragments ctx taken (t :: ts) st = .ok (methods, o) st') :
    ∃ made grown others more, emitTree ctx none (keyPlan t.name) t none st = .ok made grown
      ∧ emitEntityFragments ctx (Naming.fragmentMethodName taken t.name :: taken) ts grown
        = .ok (others, more) st'
      ∧ methods = keyMethod (Naming.fragmentMethodName taken t.name) t.name :: others
      ∧ o = made ++ more := by
  unfold emitEntityFragments at h
  obtain ⟨made, grown, hmade, h⟩ := Run.bind_eq_ok.mp h
  obtain ⟨⟨others, more⟩, closed, hmore, h⟩ := Run.bind_eq_ok.mp h
  obtain ⟨hall, rfl⟩ := Run.pure_eq_ok.mp h
  cases hall
  exact ⟨made, grown, others, more, hmade, hmore, rfl, rfl⟩

/-- What holds of the tree of each entity type, and is kept when outputs are put together, holds of
all of them. -/
lemma holds_of_emitEntityFragments {P : Output → Prop} (hempty : P ∅)
    (happend : ∀ {a b}, P a → P b → P (a ++ b)) {taken : List String} {ts : List TypeDef}
    {methods : List Method}
    (htree : ∀ t ∈ ts, ∀ {o : Output} {st st' : RunState},
      emitTree ctx none (keyPlan t.name) t none st = .ok o st' → P o)
    (h : emitEntityFragments ctx taken ts st = .ok (methods, o) st') : P o := by
  induction ts generalizing taken methods st o st' with
  | nil =>
    obtain ⟨_, rfl, _⟩ := emitEntityFragments_nil h
    exact hempty
  | cons t ts ih =>
    obtain ⟨made, grown, others, more, hmade, hmore, _, rfl⟩ := emitEntityFragments_cons h
    obtain ⟨hfirst, hrest⟩ := List.forall_mem_cons.mp htree
    exact happend (hfirst hmade) (ih hrest hmore)

/-- There is one method for each entity type, in order. -/
lemma methods_of_emitEntityFragments {taken : List String} {ts : List TypeDef}
    {methods : List Method} (h : emitEntityFragments ctx taken ts st = .ok (methods, o) st') :
    methods.map (fun m => (m.returns, m.action))
      = ts.map fun t => ((keyPlan t.name).name, .narrow t.name .itself) := by
  induction ts generalizing taken methods st o with
  | nil =>
    obtain ⟨rfl, _⟩ := emitEntityFragments_nil h
    rfl
  | cons t ts ih =>
    obtain ⟨made, grown, others, more, _, hmore, rfl, _⟩ := emitEntityFragments_cons h
    exact congrArg (_ :: ·) (ih hmore)

/-- The federation root is left out if it is not wanted, if there is no entity for it to stand for,
or if its name is given out. -/
lemma generateEntities_cases {definitions : List TypeDef}
    (h : generateEntities ctx definitions st = .ok o st') :
    (ctx.config.skipEntities = true ∨ keyedTypes ctx definitions = []
        ∨ clientName ctx entitiesRoot ∈ st.registry.names) ∧ o = ∅ ∧ st' = st
      ∨ clientName ctx entitiesRoot ∉ st.registry.names
        ∧ ∃ methods fragments, emitEntityFragments ctx Naming.projectionNames
            (keyedTypes ctx definitions)
            { st with registry := ⟨clientName ctx entitiesRoot :: st.registry.names⟩ }
            = .ok (methods, fragments) st'
          ∧ o = { projections := [entitiesClass ctx methods] } ++ fragments := by
  unfold generateEntities at h
  split at h
  · rename_i hnone
    obtain ⟨rfl, rfl⟩ := Run.pure_eq_ok.mp h
    rcases Bool.or_eq_true_iff.mp hnone with hskip | hempty
    · exact .inl ⟨.inl hskip, rfl, rfl⟩
    · exact .inl ⟨.inr (.inl (List.isEmpty_iff.mp hempty)), rfl, rfl⟩
  · obtain ⟨wasFree, mid, hregister, hthen⟩ := Run.bind_eq_ok.mp h
    cases wasFree with
    | false =>
      obtain ⟨hgiven, rfl⟩ := registerClass_eq_false.mp hregister
      obtain ⟨rfl, rfl⟩ := Run.pure_eq_ok.mp hthen
      exact .inl ⟨.inr (.inr hgiven), rfl, rfl⟩
    | true =>
      obtain ⟨hfree, rfl⟩ := registerClass_eq_true.mp hregister
      obtain ⟨⟨methods, fragments⟩, closed, hfragments, hout⟩ := Run.bind_eq_ok.mp hthen
      obtain ⟨rfl, rfl⟩ := Run.pure_eq_ok.mp hout
      exact .inr ⟨hfree, methods, fragments, hfragments, rfl⟩

end ClientGen
