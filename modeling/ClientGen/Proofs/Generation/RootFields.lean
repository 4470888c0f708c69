import ClientGen.Proofs.Calls.Covered
import ClientGen.Proofs.Emission.Inner
import ClientGen.Proofs.Generation.Methods

/-!
# Classes of root fields

The query class and the root class of a root field are named after the field, with its first letter
in upper case. Of several root fields with one such name the first one has the classes, of whatever
kind of operation they are; the others are passed over without a word.

* `firstsBy` keeps the first of several things with one key.
* `Serves` says that a part of a run serves the first of its root fields, and `serves_of_generate`
  finds it in a whole run.
* `first_root_fields_have_classes` is the exact account, with the condition under which every root
  field has classes of its own.
-/

namespace ClientGen

open ClientGen.Projection

/-! ## First come, first served -/

section

variable {α β : Type} {key : α → String} {seen seen' : List String} {as bs : List α}

/-- The first of each key, in order; `seen` lists the keys that are taken. -/
def firstsBy (key : α → String) (seen : List String) : List α → List α
  | [] => []
  | a :: as =>
    if key a ∈ seen then firstsBy key seen as else a :: firstsBy key (key a :: seen) as

/-- Only those keys matter that there are. -/
lemma firstsBy_congr (h : ∀ a ∈ as, (key a ∈ seen ↔ key a ∈ seen')) :
    firstsBy key seen as = firstsBy key seen' as := by
  induction as generalizing seen seen' with
  | nil => rfl
  | cons a as ih =>
    have hrest : ∀ b ∈ as, (key b ∈ seen ↔ key b ∈ seen') :=
      fun b hb => h b (List.mem_cons_of_mem _ hb)
    unfold firstsBy
    by_cases hseen : key a ∈ seen
    · rw [if_pos hseen, if_pos ((h a List.mem_cons_self).mp hseen), ih hrest]
    · rw [if_neg hseen, if_neg fun hc => hseen ((h a List.mem_cons_self).mpr hc)]
      congr 1
      apply ih
      intro b hb
      rw [List.mem_cons, List.mem_cons, hrest b hb]

lemma firstsBy_append :
    firstsBy key seen (as ++ bs)
      = firstsBy key seen as ++ firstsBy key (as.map key ++ seen) bs := by
  induction as generalizing seen with
  | nil => rfl
  | cons a as ih =>
    rw [List.cons_append, firstsBy, firstsBy]
    by_cases hseen : key a ∈ seen
    · rw [if_pos hseen, if_pos hseen, ih]
      congr 1
      apply firstsBy_congr
      intro b _
      -- the key has been seen before, so it does not matter that it is seen again
      simp only [List.map_cons, List.cons_append, List.mem_append, List.mem_cons]
      constructor
      · exact .inr
      · rintro (hb | hb)
        · exact .inr (hb ▸ hseen)
        · exact hb
    · rw [if_neg hseen, if_neg hseen, ih, List.cons_append]
      congr 2
      apply firstsBy_congr
      intro b _
      simp only [List.map_cons, List.cons_append, List.mem_append, List.mem_cons]
      exact or_left_comm

/-- Keys that stand for others one by one do as well as these. -/
lemma firstsBy_comp {g : String → String} (hg : Function.Injective g) (seen : List String) :
    firstsBy (fun a => g (key a)) (seen.map g) as = firstsBy key seen as := by
  induction as generalizing seen with
  | nil => rfl
  | cons a as ih =>
    rw [firstsBy, firstsBy, ← List.map_cons, ih, ih]
    simp only [List.mem_map_of_injective hg]

/-- Where all keys are different, nothing is left out. -/
lemma firstsBy_eq_self (hnodup : (as.map key).Nodup) (hnew : ∀ a ∈ as, key a ∉ seen) :
    firstsBy key seen as = as := by
  induction as generalizing seen with
  | nil => rfl
  | cons a as ih =>
    obtain ⟨hfirst, hrest⟩ := List.nodup_cons.mp hnodup
    rw [firstsBy, if_neg (hnew a List.mem_cons_self), ih hrest]
    intro b hb hseen
    rcases List.mem_cons.mp hseen with hsame | hseen
    · exact hfirst (hsame ▸ List.mem_map_of_mem hb)
    · exact hnew b (List.mem_cons_of_mem _ hb) hseen

/-- A part of a run makes the classes of those of its requests whose names are free, each time the
first one; and of all names of a sort, it gives out exactly those of its requests. -/
structure FirstServed (sort : String → Prop) (key : α → String) (made : α → β) (as : List α)
    (st : RunState) (classes : List β) (st' : RunState) : Prop where
  classes : classes = (firstsBy key st.registry.names as).map made
  names : ∀ n, sort n → (n ∈ st'.registry.names ↔ n ∈ as.map key ∨ n ∈ st.registry.names)
  sorted : ∀ a ∈ as, sort (key a)

namespace FirstServed

variable {sort : String → Prop} {made : α → β} {a : α} {st mid st' : RunState} {xs ys : List β}

/-- Without a request no name of the sort is given out. -/
lemma nothing
    (h : ∀ n, sort n → (n ∈ st'.registry.names ↔ n ∈ st.registry.names)) :
    FirstServed sort key made [] st [] st' :=
  ⟨rfl, fun n hn => by rw [h n hn]; simp, fun _ ha => absurd ha List.not_mem_nil⟩

/-- A request whose name is given out is passed over. -/
lemma given (ha : sort (key a)) (hgiven : key a ∈ st.registry.names) :
    FirstServed sort key made [a] st [] st := by
  refine ⟨?_, fun n _ => ?_, fun b hb => ?_⟩
  · rw [firstsBy, if_pos hgiven]
    rfl
  · rw [List.map_singleton, List.mem_singleton]
    constructor
    · exact .inr
    · rintro (rfl | hn)
      · exact hgiven
      · exact hn
  · rw [List.mem_singleton.mp hb]
    exact ha

/-- A request whose name is free has its class made. -/
lemma free (ha : sort (key a)) (hfree : key a ∉ st.registry.names)
    (h : ∀ n, sort n → (n ∈ st'.registry.names ↔ n = key a ∨ n ∈ st.registry.names)) :
    FirstServed sort key made [a] st [made a] st' := by
  refine ⟨?_, fun n hn => ?_, fun b hb => ?_⟩
  · rw [firstsBy, if_neg hfree]
    rfl
  · rw [h n hn, List.map_singleton, List.mem_singleton]
  · rw [List.mem_singleton.mp hb]
    exact ha

lemma append (h : FirstServed sort key made as st xs mid)
    (h' : FirstServed sort key made bs mid ys st') :
    FirstServed sort key made (as ++ bs) st (xs ++ ys) st' := by
  refine ⟨?_, fun n hn => ?_, fun c hc => (List.mem_append.mp hc).elim (h.sorted c) (h'.sorted c)⟩
  · rw [h.classes, h'.classes, firstsBy_append, List.map_append]
    congr 2
    apply firstsBy_congr
    intro b hb
    rw [List.mem_append]
    exact h.names _ (h'.sorted b hb)
  · rw [h'.names n hn, h.names n hn, List.map_append, List.mem_append]
    exact or_left_comm.trans or_assoc.symm

end FirstServed

end

/-! ## Parts of a run -/

variable {ctx : Context} {o : Output} {st mid st' : RunState}

/-- The query class of a root field. -/
def queryOf (ctx : Context) (e : TypeDef × Field) : QueryClass :=
  queryClass ctx (rootKind ctx e.1) e.2

/-- The name and the type of the root class of a root field. -/
def rootOf (e : TypeDef × Field) : String × String :=
  ((rootPlan e.2.name).name, e.2.typeName)

/-- The root classes of root fields in an output, as names and types; the federation root is left
out. -/
def Output.fieldRoots (ctx : Context) (o : Output) : List (String × String) :=
  (o.projections.filter fun c => c.base = .root && !c.isFederationRoot ctx).map fun c =>
    (c.name, c.schemaType)

lemma Output.fieldRoots_append (a b : Output) :
    (a ++ b).fieldRoots ctx = a.fieldRoots ctx ++ b.fieldRoots ctx := by
  unfold fieldRoots
  rw [projections_append, List.filter_append, List.map_append]

lemma Output.fieldRoots_eq_nil
    (h : ∀ c ∈ o.projections, c.base = .root → c.isFederationRoot ctx = true) :
    o.fieldRoots ctx = [] := by
  unfold Output.fieldRoots
  rw [List.map_eq_nil_iff, List.filter_eq_nil_iff]
  intro c hc hboth
  obtain ⟨hbase, hnot⟩ := Bool.and_eq_true_iff.mp hboth
  rw [h c hc (of_decide_eq_true hbase)] at hnot
  cases hnot

lemma exists_of_mem_fieldRoots {name typeName : String} (h : (name, typeName) ∈ o.fieldRoots ctx) :
    ∃ c ∈ o.projections, c.base = .root ∧ c.name = name ∧ c.schemaType = typeName
      ∧ c.isFederationRoot ctx = false := by
  obtain ⟨c, hc, hpair⟩ := List.mem_map.mp h
  obtain ⟨hmem, hboth⟩ := List.mem_filter.mp hc
  obtain ⟨hbase, hnot⟩ := Bool.and_eq_true_iff.mp hboth
  obtain ⟨hname, htype⟩ := Prod.mk.inj hpair
  exact ⟨c, hmem, of_decide_eq_true hbase, hname, htype, by simpa using hnot⟩

lemma Output.Inner.fieldRoots (h : o.Inner ctx) : o.fieldRoots ctx = [] :=
  Output.fieldRoots_eq_nil fun c hc hbase => ((h.projections c hc).base hbase).elim

/-- The first class of the tree of a root field. -/
lemma fieldRoots_made {plan : ClassPlan} (hbase : plan.base = .root) (head : Head)
    (members : Members) (ws : List ExcludedSelection) :
    Output.fieldRoots ctx { projections := [plan.made ctx head members], warnings := ws }
      = [(plan.name, head.type.name)] := by
  have hkept : (decide ((plan.made ctx head members).base = .root)
      && !(plan.made ctx head members).isFederationRoot ctx) = true := by
    rw [isFederationRoot_made, Bool.not_false, Bool.and_true]
    exact decide_eq_true hbase
  unfold Output.fieldRoots
  show List.map _ (List.filter _ [_]) = _
  rw [List.filter_cons, if_pos hkept]
  rfl

/-- The first of some root fields have their query classes, and the first of those on which there
is something to be selected have their root classes. -/
structure Serves (ctx : Context) (fields items : List (TypeDef × Field)) (st : RunState)
    (o : Output) (st' : RunState) : Prop where
  queries : FirstServed (IsQueryName ctx) (fun e => clientName ctx (queryName e.2.name))
    (queryOf ctx) fields st o.queries st'
  roots : FirstServed (IsRootName ctx) (rootName ctx) rootOf items st (o.fieldRoots ctx) st'

namespace Serves

variable {fields others items more : List (TypeDef × Field)} {a b : Output}

lemma nothing (st : RunState) (ws : List ExcludedSelection) :
    Serves ctx [] [] st { warnings := ws } st :=
  ⟨.nothing fun _ _ => Iff.rfl, .nothing fun _ _ => Iff.rfl⟩

lemma append (h : Serves ctx fields items st a mid) (h' : Serves ctx others more mid b st') :
    Serves ctx (fields ++ others) (items ++ more) st (a ++ b) st' := by
  refine ⟨h.queries.append h'.queries, ?_⟩
  rw [Output.fieldRoots_append]
  exact h.roots.append h'.roots

end Serves

section

variable (hnames : ctx.schema.Dotless) (hapart : ctx.TypesApart) {root : TypeDef} {f : Field}

include hnames hapart

lemma serves_emitQuery (hf : Dotless f.name)
    (h : emitQuery ctx (rootKind ctx root) f st = .ok o st') :
    Serves ctx [(root, f)] [] st o st' := by
  have hsort : IsQueryName ctx (clientName ctx (queryName f.name)) := ⟨f.name, hf, rfl⟩
  have haccounts := (sound_emitQuery h).accounts
  rcases emitQuery_cases h with ⟨hgiven, rfl, rfl⟩ | ⟨hfree, types, htypes, rfl⟩
  · exact ⟨.given hsort hgiven, .nothing fun _ _ => Iff.rfl⟩
  · have hinner := inner_of_argumentTypes hapart htypes
    have hmem := haccounts.mem_iff_of_names (clientName ctx (queryName f.name)) rfl
    have hqueries : (({ queries := [queryClass ctx (rootKind ctx root) f] } : Output)
        ++ types).queries = [queryOf ctx (root, f)] := by
      show [queryClass ctx (rootKind ctx root) f] ++ types.queries = _
      rw [hinner.queries]
      rfl
    constructor
    · rw [hqueries]
      refine .free hsort hfree fun n hn => ?_
      have hnot := hinner.not_isQueryName hnames hn
      simp only [hmem, hnot, or_false]
    · rw [Output.fieldRoots_append, hinner.fieldRoots]
      refine .nothing fun n hn => ?_
      -- neither the query class nor the data types have names of root classes
      have hnot := hinner.not_isRootName hnames hn
      have hne : n ≠ clientName ctx (queryName f.name) := by
        obtain ⟨field, _, rfl⟩ := hn
        intro hsame
        exact queryName_ne_rootPlan_name f.name field (clientName_injective ctx hsame).symm
      simp only [hmem, hnot, hne, or_false, false_or]

lemma serves_emitRootProjection (hf : Dotless f.name)
    (h : emitRootProjection ctx root (ctx.example? (rootKind ctx root)) f st = .ok o st') :
    Serves ctx [] (itemsOf ctx root [f]) st o st' := by
  have haccounts := (sound_emitRootProjection h).accounts
  rcases emitRootProjection_cases h with ⟨hfind, rfl, rfl⟩ | ⟨target, hfind, htree⟩
  · rw [itemsOf_of_none hfind]
    exact .nothing _ []
  · rw [itemsOf_of_some hfind]
    have hsort : IsRootName ctx (rootName ctx (root, f)) := ⟨f.name, hf, rfl⟩
    rcases inner_emitTree hapart (hapart.operation (rootKind ctx root)) htree with
      ⟨hgiven, rfl, rfl⟩ | ⟨hfree, members, below, hinner, rfl⟩
    · exact ⟨.nothing fun _ _ => Iff.rfl, .given hsort hgiven⟩
    · have htype : target.name = f.typeName :=
        Schema.findType?_name (Schema.findSelectable?_eq_some hfind)
      have hmem := haccounts.mem_iff_of_names (rootName ctx (root, f)) rfl
      constructor
      · show FirstServed _ _ _ [] st ([] ++ below.queries) st'
        rw [hinner.queries]
        refine .nothing fun n hn => ?_
        have hnot := hinner.not_isQueryName hnames hn
        have hne : n ≠ rootName ctx (root, f) := by
          obtain ⟨field, _, rfl⟩ := hn
          intro hsame
          exact queryName_ne_rootPlan_name field f.name (clientName_injective ctx hsame)
        simp only [hmem, hnot, hne, or_false, false_or]
      · have hmade : Output.fieldRoots ctx
            { projections := [(rootPlan f.name).made ctx (headAt ctx target
                (rootSelection? (ctx.example? (rootKind ctx root)) root.name f.name)) members]
              warnings := (headAt ctx target
                (rootSelection? (ctx.example? (rootKind ctx root)) root.name f.name)).warnings }
            = [rootOf (root, f)] := by
          rw [fieldRoots_made rfl]
          exact congrArg (fun name => [((rootPlan f.name).name, name)]) htype
        rw [Output.fieldRoots_append, hinner.fieldRoots, List.append_nil, hmade]
        refine .free hsort hfree fun n hn => ?_
        have hnot := hinner.not_isRootName hnames hn
        simp only [hmem, hnot, or_false]

lemma serves_emitRootFields {fs : List Field} (hfs : ∀ f ∈ fs, Dotless f.name)
    (h : emitRootFields ctx (rootKind ctx root) root fs st = .ok o st') :
    Serves ctx (fs.map fun f => (root, f)) (itemsOf ctx root fs) st o st' := by
  induction fs generalizing st o st' with
  | nil =>
    obtain ⟨rfl, rfl⟩ := Run.pure_eq_ok.mp h
    exact .nothing _ []
  | cons f fs ih =>
    obtain ⟨query, asked, projection, grown, more, hquery, hprojection, hmore, rfl⟩ :=
      emitRootFields_cons h
    have hf := hfs f List.mem_cons_self
    have hfirst := (serves_emitQuery hnames hapart hf hquery).append
      (serves_emitRootProjection hnames hapart hf hprojection)
    rw [itemsOf_cons]
    exact hfirst.append (ih (fun g hg => hfs g (List.mem_cons_of_mem _ hg)) hmore)

lemma serves_generateRoots {ts : List TypeDef} (h : generateRoots ctx ts st = .ok o st') :
    Serves ctx
      (ts.flatMap fun root =>
        (rootFields ctx (rootKind ctx root) root).fields.map fun f => (root, f))
      (ts.flatMap fun root => itemsOf ctx root (rootFields ctx (rootKind ctx root) root).fields)
      st o st' := by
  induction ts generalizing st o st' with
  | nil =>
    obtain ⟨rfl, rfl⟩ := Run.pure_eq_ok.mp h
    exact .nothing _ []
  | cons t ts ih =>
    obtain ⟨made, mid, more, hmade, hmore, rfl⟩ := generateRoots_cons h
    obtain ⟨_, fields, hfields, rfl⟩ := generateRoot_of_ok hmade
    have hdotless : ∀ f ∈ (rootFields ctx (rootKind ctx t) t).fields, Dotless f.name :=
      fun f hf => hnames.field (mem_fieldsOf_of_mem_rootFields hf)
    have hwarned : Serves ctx [] [] st
        { warnings := (rootFields ctx (rootKind ctx t) t).warnings } st :=
      .nothing st _
    have hserved := serves_emitRootFields hnames hapart hdotless hfields
    rw [List.flatMap_cons, List.flatMap_cons]
    exact (hwarned.append hserved).append (ih hmore)

/-! ## Entities -/

omit hnames in
lemma inner_of_emitEntityFragments {taken : List String} {ts : List TypeDef}
    {methods : List Method} (h : emitEntityFragments ctx taken ts st = .ok (methods, o) st') :
    o.Inner ctx := by
  have hshared : DataTypes.operationPackage ctx.config none ≠ ctx.config.clientNamespace :=
    hapart.shared
  refine holds_of_emitEntityFragments .empty .append (fun t _ made st st' hmade => ?_) h
  -- the fragment on an entity type is a class like those of other fragments
  rcases inner_emitTree hapart hshared hmade with ⟨_, rfl, _⟩ | ⟨_, members, below, hinner, rfl⟩
  · exact .empty
  · refine Output.Inner.append ⟨rfl, fun c hc => ?_, .of_none rfl rfl⟩ hinner
    obtain rfl := List.mem_singleton.mp hc
    exact ⟨rfl, (fun hbase => by cases hbase), _, rfl⟩

omit hnames in
/-- The entities add no query class and, but for the federation root, no root class. -/
lemma of_generateEntities {definitions : List TypeDef}
    (h : generateEntities ctx definitions st = .ok o st') :
    o.queries = []
      ∧ ∀ c ∈ o.projections, c.base = .root → c.isFederationRoot ctx = true := by
  rcases generateEntities_cases h with ⟨_, rfl, _⟩ | ⟨_, methods, fragments, hfragments, rfl⟩
  · exact ⟨rfl, fun _ hc => absurd hc List.not_mem_nil⟩
  · have hinner := inner_of_emitEntityFragments hapart hfragments
    refine ⟨hinner.queries, fun c hc hbase => ?_⟩
    rcases List.mem_cons.mp hc with rfl | hc
    · exact decide_eq_true rfl
    · exact ((hinner.projections c hc).base hbase).elim

end

/-! ## Whole runs -/

/-- The root fields of a run, in the order of generation. -/
def rootFieldsOf (ctx : Context) : List (TypeDef × Field) :=
  (rootTypes ctx.schema).flatMap fun root =>
    (rootFields ctx (rootKind ctx root) root).fields.map fun f => (root, f)

/-- The name that the classes of a root field are made from. -/
def classStem (e : TypeDef × Field) : String :=
  Text.capitalized e.2.name

/-- The root fields on which there is something to be selected are some of the root fields. -/
lemma rootItems_sublist (ctx : Context) : (rootItems ctx).Sublist (rootFieldsOf ctx) := by
  unfold rootItems rootFieldsOf
  induction rootTypes ctx.schema with
  | nil => exact .slnil
  | cons t ts ih =>
    rw [List.flatMap_cons, List.flatMap_cons]
    exact (List.filter_sublist.map _).append ih

/-- A run serves the first of its root fields. -/
theorem serves_of_generate (hnames : ctx.schema.Dotless) (hapart : ctx.TypesApart)
    (h : generate ctx = .ok o) :
    o.queries = (firstsBy classStem [] (rootFieldsOf ctx)).map (queryOf ctx)
      ∧ o.fieldRoots ctx = (firstsBy classStem [] (rootItems ctx)).map rootOf := by
  obtain ⟨roots, mid, entities, st', hroots, hentities, rfl⟩ := exists_of_generate h
  obtain ⟨hnone, hfederation⟩ := of_generateEntities hapart hentities
  obtain ⟨hqueries, hclasses⟩ := serves_generateRoots hnames hapart hroots
  constructor
  · -- the names of the query classes tell the stems
    have hinjective : Function.Injective fun stem => clientName ctx (stem ++ "GraphQLQuery") :=
      (clientName_injective ctx).comp fun a b hab => (String.append_left_inj _).mp hab
    show roots.queries ++ entities.queries = _
    rw [hnone, List.append_nil, hqueries.classes]
    exact congrArg (List.map _) (firstsBy_comp hinjective [])
  · have hinjective : Function.Injective fun stem => clientName ctx (stem ++ "ProjectionRoot") :=
      (clientName_injective ctx).comp fun a b hab => (String.append_left_inj _).mp hab
    rw [Output.fieldRoots_append, Output.fieldRoots_eq_nil hfederation, List.append_nil,
      hclasses.classes]
    exact congrArg (List.map _) (firstsBy_comp hinjective [])

/-- The root type of a kind of operation is generated for that kind, if no other kind has it. -/
lemma rootKind_of_get (hroots : (ctx.schema.roots.toList.map (·.2)).Nodup)
    {kind : Document.OperationKind} {t : TypeDef}
    (ht : ctx.schema.findType? (ctx.schema.roots.get kind) = some t) :
    (kind, ctx.schema.roots.get kind) ∈ ctx.schema.roots.toList ∧ rootKind ctx t = kind := by
  have hmem : (kind, ctx.schema.roots.get kind) ∈ ctx.schema.roots.toList := by
    cases kind <;> simp [Roots.toList, Roots.get]
  have hfind := find?_eq_some hroots hmem
  unfold rootKind Schema.operationKindOf?
  rw [Schema.findType?_name ht, hfind]
  exact ⟨hmem, rfl⟩

/-- The query classes are those of the first root fields of each name, and the root classes those
of the first ones on which there is something to be selected. Where no two root fields have the
same name up to the case of its first letter, and no type is the root of two kinds of operations,
each root field of each kind has its own. -/
theorem first_root_fields_have_classes (hnames : ctx.schema.Dotless) (hapart : ctx.TypesApart)
    (h : generate ctx = .ok o) :
    o.queries = (firstsBy classStem [] (rootFieldsOf ctx)).map (queryOf ctx)
      ∧ o.fieldRoots ctx = (firstsBy classStem [] (rootItems ctx)).map rootOf
      ∧ (((rootFieldsOf ctx).map classStem).Nodup →
          (ctx.schema.roots.toList.map (·.2)).Nodup →
          (o.queries = (rootFieldsOf ctx).map (queryOf ctx)
            ∧ o.fieldRoots ctx = (rootItems ctx).map rootOf)
          ∧ ∀ kind t, ctx.schema.findType? (ctx.schema.roots.get kind) = some t →
              t.kind = .object → ∀ f ∈ (rootFields ctx kind t).fields,
                queryClass ctx kind f ∈ o.queries
                  ∧ ∀ target, ctx.schema.findSelectable? f.typeName = some target →
                    ∃ c ∈ o.projections, c.base = .root ∧ c.name = (rootPlan f.name).name
                      ∧ c.schemaType = target.name) := by
  obtain ⟨hqueries, hclasses⟩ := serves_of_generate hnames hapart h
  refine ⟨hqueries, hclasses, fun hstems hroots => ?_⟩
  have hitems : ((rootItems ctx).map classStem).Nodup := by
    refine List.Sublist.nodup (List.Sublist.map _ ?_) hstems
    exact rootItems_sublist ctx
  rw [firstsBy_eq_self hstems fun _ _ => List.not_mem_nil] at hqueries
  rw [firstsBy_eq_self hitems fun _ _ => List.not_mem_nil] at hclasses
  refine ⟨⟨hqueries, hclasses⟩, fun kind t ht hobject f hf => ?_⟩
  obtain ⟨hmem, hkind⟩ := rootKind_of_get hroots ht
  subst hkind
  have hroot : t ∈ rootTypes ctx.schema := by
    refine List.mem_filterMap.mpr ⟨_, hmem, ?_⟩
    show (ctx.schema.findType? _).filter _ = _
    rw [ht, Option.filter_some, if_pos (decide_eq_true hobject)]
  constructor
  · rw [hqueries]
    refine List.mem_map.mpr ⟨(t, f), ?_, rfl⟩
    exact List.mem_flatMap.mpr ⟨t, hroot, List.mem_map_of_mem hf⟩
  · intro target hfind
    have hitem : (t, f) ∈ rootItems ctx := by
      refine List.mem_flatMap.mpr ⟨t, hroot, List.mem_map_of_mem (List.mem_filter.mpr ⟨hf, ?_⟩)⟩
      rw [hfind]
      rfl
    have hmade : rootOf (t, f) ∈ o.fieldRoots ctx := hclasses ▸ List.mem_map_of_mem hitem
    obtain ⟨c, hc, hbase, hname, htype, _⟩ := exists_of_mem_fieldRoots hmade
    rw [Schema.findType?_name (Schema.findSelectable?_eq_some hfind)]
    exact ⟨c, hc, hbase, hname, htype⟩

/-- A mutation type with one field. -/
def rateMutation (typeName : String) : TypeDef where
  name := "Mutation"
  kind := .object
  fields := [plainField "rate" typeName]

/-- The setting of `type Query { me: Person }` and `type Mutation { rate: Person }`, with nothing
configured. -/
def ratedPeople : Context where
  schema :=
    { types :=
        [queryType (plainField "me" "Person"), rateMutation "Person",
         { name := "Person", kind := .object, fields := [plainField "name" "String"] }] }

/-- The query and the mutation have classes of their own. -/
theorem first_root_fields_have_classes_ratedPeople :
    ∃ o, generate ratedPeople = .ok o
      ∧ o.queries.map (fun q => (q.field, q.kind)) = [("me", .query), ("rate", .mutation)]
      ∧ o.fieldRoots ratedPeople
          = [("MeProjectionRoot", "Person"), ("RateProjectionRoot", "Person")] := by
  have hapart : ratedPeople.TypesApart := ⟨by decide, fun _ _ hexample => by cases hexample⟩
  obtain ⟨o, ho⟩ : ∃ o, generate ratedPeople = .ok o :=
    exists_generate_of_objectMembers (by decide) (by decide) (by decide)
  obtain ⟨⟨hqueries, hclasses⟩, _⟩ :=
    (first_root_fields_have_classes (by decide) hapart ho).2.2 (by decide) (by decide)
  refine ⟨o, ho, ?_, ?_⟩
  · rw [hqueries]
    rfl
  · rw [hclasses]
    rfl

/-- The setting of `type Query { rate: Int }` and `type Mutation { rate: Int }`, with nothing
configured. -/
def ratedTwice : Context where
  schema := { types := [queryType (plainField "rate" "Int"), rateMutation "Int"] }

/-- The field of the mutation type is to be generated, but its class would have the name of that
of the query type. -/
theorem ratedTwice_lacks_mutation :
    plainField "rate" "Int" ∈ (rootFields ratedTwice .mutation (rateMutation "Int")).fields
      ∧ ∃ o, generate ratedTwice = .ok o ∧ ∀ q ∈ o.queries, q.kind ≠ .mutation := by
  have hapart : ratedTwice.TypesApart := ⟨by decide, fun _ _ hexample => by cases hexample⟩
  obtain ⟨o, ho⟩ : ∃ o, generate ratedTwice = .ok o :=
    exists_generate_of_objectMembers (by decide) (by decide) (by decide)
  refine ⟨List.mem_cons_self, o, ho, fun q hq hmutation => ?_⟩
  obtain ⟨hqueries, _⟩ := serves_of_generate (by decide) hapart ho
  rw [hqueries] at hq
  obtain rfl := List.mem_singleton.mp hq
  cases hmutation

end ClientGen
