import ClientGen.Proofs.Emission.MethodNames
import ClientGen.Proofs.Generation.Plain
import ClientGen.Proofs.Generation.Trees

/-!
# Method names over many calls

All classes that come out of any calls, in any order, have methods with names that may stand side by
side: those of the trees of root fields and of entities, and the federation root, whose methods are
all for fragments. The names are those of the schema, of which only the grammar is asked.

* `Call.methodsNamed` is about one call.
* `methods_named` is about all classes, and about what makes the names free.
-/

namespace ClientGen

open ClientGen.Naming ClientGen.Projection
open ClientGen.Document.Token (isName)

variable {ctx : Context} {st st' : RunState} {o : Output}

/-! ## Root fields -/

lemma methodsNamed_of_emitQuery {kind : Document.OperationKind} {f : Field}
    (h : emitQuery ctx kind f st = .ok o st') : o.MethodsNamed := by
  rcases emitQuery_cases h with ⟨_, rfl, _⟩ | ⟨_, types, htypes, rfl⟩
  · exact .of_none rfl
  · exact Output.MethodsNamed.append (.of_none rfl) (methodsNamed_of_run htypes)

section

variable (hnames : ctx.schema.MembersNamed)

include hnames

lemma methodsNamed_of_emitRootProjection {root : TypeDef} {example? : Option ExampleOperation}
    {f : Field} (h : emitRootProjection ctx root example? f st = .ok o st') : o.MethodsNamed := by
  rcases emitRootProjection_cases h with ⟨_, rfl, _⟩ | ⟨target, _, htree⟩
  · exact .of_none rfl
  · exact methodsNamed_emitTree hnames htree

lemma methodsNamed_of_generateRoot {root : TypeDef} (h : generateRoot ctx root st = .ok o st') :
    o.MethodsNamed := by
  obtain ⟨_, made, hmade, rfl⟩ := generateRoot_of_ok h
  have hfields : made.MethodsNamed :=
    holds_of_emitRootFields (.of_none rfl) .append (fun _ _ => methodsNamed_of_emitQuery)
      (fun _ _ => methodsNamed_of_emitRootProjection hnames) hmade
  exact Output.MethodsNamed.append (.of_none rfl) hfields

/-! ## Entities -/

omit hnames in
/-- The methods of the federation root are named one after the other, like those of a fragment. -/
lemma methodsNamed_of_emitEntityFragments {taken : List String} {ts : List TypeDef}
    {methods : List Method} (hts : ∀ t ∈ ts, isName t.name = true)
    (h : emitEntityFragments ctx taken ts st = .ok (methods, o) st') :
    MethodsNamed taken methods := by
  induction ts generalizing taken methods st o st' with
  | nil =>
    obtain ⟨rfl, _⟩ := emitEntityFragments_nil h
    exact .nil
  | cons t ts ih =>
    obtain ⟨made, grown, others, more, _, hmore, rfl, _⟩ := emitEntityFragments_cons h
    obtain ⟨ht, hrest⟩ := List.forall_mem_cons.mp hts
    exact (ih hrest hmore).cons_fragment ht

lemma methodsNamed_of_generateEntities {definitions : List TypeDef}
    (hdefinitions : ∀ t ∈ definitions, isName t.name = true)
    (h : generateEntities ctx definitions st = .ok o st') : o.MethodsNamed := by
  rcases generateEntities_cases h with ⟨_, rfl, _⟩ | ⟨_, methods, fragments, hfragments, rfl⟩
  · exact .of_none rfl
  · have hkeyed : ∀ t ∈ keyedTypes ctx definitions, isName t.name = true :=
      fun t ht => hdefinitions t (List.mem_of_mem_filter ht)
    have hroot : Output.MethodsNamed { projections := [entitiesClass ctx methods] } := by
      intro c hc
      rw [List.mem_singleton.mp hc]
      exact methodsNamed_of_emitEntityFragments hkeyed hfragments
    have hbelow : fragments.MethodsNamed :=
      holds_of_emitEntityFragments (.of_none rfl) .append
        (fun _ _ => methodsNamed_emitTree hnames) hfragments
    exact hroot.append hbelow

/-! ## Calls -/

omit hnames in
/-- The entity types that a call names have names of the grammar. -/
def Call.EntitiesNamed : Call → Prop
  | entities definitions => ∀ t ∈ definitions, isName t.name = true
  | _ => True

/-- The classes that a call brings have methods with names that may stand side by side. -/
theorem Call.methodsNamed {c : Call} (hc : c.EntitiesNamed) (h : c.run ctx st = .ok o st') :
    o.MethodsNamed := by
  cases c with
  | root type => exact methodsNamed_of_generateRoot hnames h
  | entities definitions => exact methodsNamed_of_generateEntities hnames hc h
  | dataType type selection? package? => exact methodsNamed_of_run h
  | referenced typeName package? => exact methodsNamed_of_run h

lemma History.methodsNamed_after {calls : List Call} (hcalls : ∀ c ∈ calls, c.EntitiesNamed) :
    (after ctx calls).total.MethodsNamed :=
  total_after (.of_none rfl) .append fun c hc => Call.methodsNamed hnames (hcalls c hc)

end

/-- All projection classes that come out of any calls have methods with different names, apart from
what projection classes define for themselves, that are identifiers and no keywords; and so have
their parameters, apart from what methods use for themselves. This goes for all classes of a run. To
be free, a name takes underscores, only as long as it is taken, and stays a usable one. -/
theorem methods_named (hnames : ctx.schema.MembersNamed) :
    (∀ calls : List Call, (∀ c ∈ calls, c.EntitiesNamed) →
        ∀ c ∈ (History.after ctx calls).total.projections, c.MethodsNamed)
      ∧ (∀ o, generate ctx = .ok o → ∀ c ∈ o.projections, c.MethodsNamed)
      ∧ ∀ taken name, fresh taken name ∉ taken
        ∧ (∃ k ≤ taken.length, fresh taken name = candidate name k
          ∧ ∀ j < k, candidate name j ∈ taken)
        ∧ (IsUsable name → IsUsable (fresh taken name)) := by
  refine ⟨fun calls hcalls => History.methodsNamed_after hnames hcalls, fun o h => ?_,
    fun taken name => ⟨fresh_not_mem taken name, ?_, fun husable => husable.fresh taken⟩⟩
  · obtain ⟨st', hafter⟩ := after_of_generate h
    have hcalls : ∀ c ∈ generationCalls ctx, c.EntitiesNamed := by
      intro c hc
      rcases List.mem_append.mp hc with hc | hc
      · obtain ⟨root, _, rfl⟩ := List.mem_map.mp hc
        trivial
      · rw [List.mem_singleton.mp hc]
        exact fun t ht => (hnames.1 t (List.mem_of_mem_filter ht)).1
    have hall := History.methodsNamed_after hnames hcalls
    rw [hafter] at hall
    exact hall
  · obtain ⟨k, hk, hfound, _, hbefore⟩ := fresh_eq_candidate taken name
    exact ⟨k, hk, hfound, hbefore⟩

/-- The fields of a film and of what it implements: two names that are the same in snake case, and
one that all projection classes define for themselves. The first field has arguments whose names
mean something in methods. -/
def castFields : List Field :=
  [{ plainField "leadActor" "String" with
      arguments := [plainArgument "self" "Int", plainArgument "projection" "Int"] },
   plainField "lead_actor" "String", plainField "getRoot" "String"]

/-- An interface type with these fields. -/
def castWork : TypeDef where
  name := "Work"
  kind := .interface
  fields := castFields

/-- The type of films, which implement it. -/
def castFilm : TypeDef where
  name := "Film"
  kind := .object
  fields := castFields
  interfaces := ["Work"]

/-- The setting of these types and a root field, without data types. -/
def casting : Context where
  schema := { types := [queryType (plainField "find" "Work"), castWork, castFilm] }
  config := { dataTypes := false }

/-- The names are apart from each other and from what is defined already, and so are those of the
parameters. -/
theorem methods_named_cast :
    ∃ o, generate casting = .ok o
      ∧ (∀ c ∈ o.projections, c.MethodsNamed)
      ∧ ∃ c ∈ o.projections, c.methods.map (·.name)
          = ["lead_actor", "lead_actor_", "get_root_", "on_film"]
        ∧ ∃ m ∈ c.methods, m.parameters.map (·.identifier) = ["self_", "projection_"] := by
  let asked : RunState := { registry := ⟨["generated.client.FindGraphQLQuery"]⟩ }
  let opened : RunState :=
    { registry := ⟨"generated.client.FindProjectionRoot" :: asked.registry.names⟩ }
  let narrowed : RunState :=
    { registry := ⟨"generated.client.Find_FilmProjection" :: opened.registry.names⟩ }
  have hinside : Body.grow casting (Position.inside (.start "Work" none) castFilm) ["Film", "Work"]
      = castFields.foldr .leaf .done := by
    rw [Body.grow_eq]
    rfl
  have hgrow : Body.grow casting (.start "Work" none) ["Work"]
      = castFields.foldr .leaf (.fragment (headAt casting castFilm none)
          (castFields.foldr .leaf .done) .done) := by
    rw [Body.grow_eq, ← hinside]
    rfl
  have hplain : ∀ f ∈ castFields, ∀ a ∈ f.arguments,
      casting.scope.isDataType a.typeName = false := by
    decide
  have hquery : emitQuery casting .query (plainField "find" "Work") {} = .ok _ asked :=
    emitQuery_of_free rfl (by decide)
  -- the class of the fragment comes before what stands after it
  have hchild : emitClass casting none
      (((rootPlan "find").frame "Find").fragmentPlan "Find_Film") (headAt casting castFilm none)
      (fun frame => emitBody casting none frame projectionNames (castFields.foldr .leaf .done))
      opened = .ok _ narrowed :=
    emitClass_eq_ok.mpr (.inr ⟨"Find_Film", _, _, _, _, ⟨_, registerClass_eq_true.mpr
      ⟨by decide, rfl⟩, rfl⟩, emitBody_leaves hplain rfl, rfl, rfl⟩)
  have hmembers : emitBody casting none ((rootPlan "find").frame "Find") projectionNames
      (castFields.foldr .leaf (.fragment (headAt casting castFilm none)
        (castFields.foldr .leaf .done) .done)) opened = .ok _ narrowed :=
    emitBody_leaves hplain (emitBody_fragment (by decide +kernel) hchild rfl)
  have htree : emitRootProjection casting (queryType (plainField "find" "Work")) none
      (plainField "find" "Work") asked = .ok _ narrowed :=
    emitTree_of_members (t := castWork) hgrow (by decide) hmembers rfl
  have hnone : emitRootFields casting .query (queryType (plainField "find" "Work")) [] narrowed
      = .ok ∅ narrowed := rfl
  have hrun := generate_of_fields casting (queryType (plainField "find" "Work")) rfl rfl rfl
    (emitRootFields_of_cons hquery htree hnone)
  refine ⟨_, hrun, (methods_named (by decide)).2.1 _ hrun, _, List.mem_cons_self, ?_, ?_⟩
  · decide +kernel
  · exact ⟨_, List.mem_cons_self, by decide +kernel⟩

end ClientGen
