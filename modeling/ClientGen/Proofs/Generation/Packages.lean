import ClientGen.Proofs.Document.Names
import ClientGen.Proofs.Generation.Shared
import ClientGen.Proofs.Render.Paths

/-!
# Packages of a run

The query and projection classes of a run are in the package of the client. Its data types are in
the shared package, or in that of an example operation. None of these packages has a slash in its
name, as the names in a configuration are dotted names and the names of operations are those of the
grammar.

* `packages_of_generate` says which packages there are.
* `slashless_of_generate` is what the paths of files need of them.
-/

namespace ClientGen

open ClientGen.DataTypes ClientGen.Projection

variable {ctx : Context} {o : Output} {st st' : RunState} {operation? : Option String}

/-! ## Query classes -/

lemma queries_of_run {package : String} {stack : List Wanted}
    (h : DataTypes.run ctx package stack st = .ok o st') : o.queries = [] := by
  unfold DataTypes.run at h
  split at h
  · cases h
    obtain ⟨visits, htrace⟩ := exists_trace ctx package stack st.registry
    exact htrace.queries
  · cases h
    rfl

namespace Projection

lemma queries_of_ownTypes {head : Head} (h : ownTypes ctx operation? head st = .ok o st') :
    o.queries = [] := by
  rcases ownTypes_cases h with hrun | ⟨rfl, _⟩
  · exact queries_of_run hrun
  · rfl

/-- No part of a walk brings query classes. -/
lemma holdsOfParts_queries (ctx : Context) (operation? : Option String) :
    HoldsOfParts ctx operation? (·.queries = []) where
  empty := rfl
  append := fun {a b} ha hb => by
    show a.queries ++ b.queries = []
    rw [ha, hb]
    rfl
  argumentTypes := queries_of_run
  ownTypes := queries_of_ownTypes
  made := fun _ _ _ _ => rfl

lemma queries_of_emitTree {plan : ClassPlan} {t : TypeDef} {selection? : Option Selection}
    (h : emitTree ctx operation? plan t selection? st = .ok o st') : o.queries = [] := by
  rcases emitTree_cases h with ⟨_, rfl, _⟩ | h
  · rfl
  · obtain ⟨stem, ready, members, filled, own, _, hemits, hown, rfl⟩ := h
    obtain ⟨hbelow, harguments⟩ := (holdsOfParts_queries ctx operation?).of_emits hemits
    have hown := queries_of_ownTypes hown
    show [] ++ members.below.queries ++ own.queries ++ members.arguments.queries = []
    rw [hbelow, hown, harguments]
    rfl

end Projection

/-- All query classes are in the package of the client. -/
def Output.QueriesInClient (ctx : Context) (o : Output) : Prop :=
  ∀ q ∈ o.queries, q.package = ctx.config.clientNamespace

namespace Output.QueriesInClient

variable {a b : Output}

lemma of_none (h : a.queries = []) : a.QueriesInClient ctx := by
  intro q hq
  rw [h] at hq
  cases hq

lemma append (ha : a.QueriesInClient ctx) (hb : b.QueriesInClient ctx) :
    (a ++ b).QueriesInClient ctx :=
  fun q hq => (List.mem_append.mp hq).elim (ha q) (hb q)

end Output.QueriesInClient

lemma queriesInClient_of_emitQuery {kind : Document.OperationKind} {f : Field}
    (h : emitQuery ctx kind f st = .ok o st') : o.QueriesInClient ctx := by
  rcases emitQuery_cases h with ⟨_, rfl, _⟩ | ⟨_, types, htypes, rfl⟩
  · exact .of_none rfl
  · refine .append (fun q hq => ?_) (.of_none (queries_of_run htypes))
    rw [List.mem_singleton.mp hq]
    rfl

lemma queriesInClient_of_emitRootProjection {root : TypeDef} {example? : Option ExampleOperation}
    {f : Field} (h : emitRootProjection ctx root example? f st = .ok o st') :
    o.QueriesInClient ctx := by
  rcases emitRootProjection_cases h with ⟨_, rfl, _⟩ | ⟨target, _, htree⟩
  · exact .of_none rfl
  · exact .of_none (queries_of_emitTree htree)

lemma queriesInClient_of_emitRootFields {kind : Document.OperationKind} {root : TypeDef}
    {fs : List Field} (h : emitRootFields ctx kind root fs st = .ok o st') :
    o.QueriesInClient ctx :=
  holds_of_emitRootFields (.of_none rfl) .append (fun _ _ => queriesInClient_of_emitQuery)
    (fun _ _ => queriesInClient_of_emitRootProjection) h

lemma queriesInClient_of_generateRoots {ts : List TypeDef}
    (h : generateRoots ctx ts st = .ok o st') : o.QueriesInClient ctx := by
  induction ts generalizing st o st' with
  | nil =>
    obtain ⟨rfl, _⟩ := Run.pure_eq_ok.mp h
    exact .of_none rfl
  | cons t ts ih =>
    obtain ⟨made, mid, more, hmade, hmore, rfl⟩ := generateRoots_cons h
    obtain ⟨_, made, hfields, rfl⟩ := generateRoot_of_ok hmade
    have hroot := queriesInClient_of_emitRootFields hfields
    exact ((Output.QueriesInClient.of_none rfl).append hroot).append (ih hmore)

lemma queries_of_emitEntityFragments {taken : List String} {ts : List TypeDef}
    {methods : List Method} (h : emitEntityFragments ctx taken ts st = .ok (methods, o) st') :
    o.queries = [] := by
  have hparts := holdsOfParts_queries ctx none
  exact holds_of_emitEntityFragments hparts.empty hparts.append (fun _ _ => queries_of_emitTree) h

lemma queries_of_generateEntities {definitions : List TypeDef}
    (h : generateEntities ctx definitions st = .ok o st') : o.queries = [] := by
  rcases generateEntities_cases h with ⟨_, rfl, _⟩ | ⟨_, methods, fragments, hfragments, rfl⟩
  · rfl
  · have hnone : fragments.queries = [] := queries_of_emitEntityFragments hfragments
    exact hnone

/-! ## Packages -/

/-- Query and projection classes are in the package of the client; data types are in the shared
package or in that of an example operation. -/
theorem packages_of_generate (h : generate ctx = .ok o) :
    (∀ q ∈ o.queries, q.package = ctx.config.clientNamespace)
      ∧ (∀ c ∈ o.projections, c.package = ctx.config.clientNamespace)
      ∧ ∀ d ∈ o.dataTypes, d.package = ctx.config.typesNamespace
          ∨ ∃ kind e, ctx.example? kind = some e
            ∧ d.package = operationPackage ctx.config e.name? := by
  obtain ⟨roots, mid, entities, st', hroots, hentities, hsplit⟩ := exists_of_generate h
  refine ⟨?_, fun c hc => ?_, fun d hd => ?_⟩
  · rw [hsplit]
    exact (queriesInClient_of_generateRoots hroots).append
      (.of_none (queries_of_generateEntities hentities))
  · obtain ⟨st', hafter⟩ := after_of_generate h
    have hbelongs := (History.consistent_after ctx (generationCalls ctx)).belongs
    rw [hafter] at hbelongs
    exact (hbelongs.classes c hc).package
  · obtain ⟨t, selection?, _, _, hasked⟩ := (requested_of_generate h).dataTypes d hd
    exact hasked.package_cases

/-! ## Names without slashes -/

/-- The name of an operation, if it has one, has no slash. -/
def ExampleOperation.Slashless (e : ExampleOperation) : Prop :=
  ∀ name, e.name? = some name → ClientGen.Slashless name

namespace Slashless

variable {s : String}

/-- No identifier has a slash, so no row of identifiers has one. -/
lemma of_isDottedName (h : isDottedName s = true) : Slashless s := by
  have hslash : Text.isIdentifierPart '/' = false := by decide +kernel
  rw [iff_parts]
  intro t ht hmem
  obtain ⟨part, hpart, rfl⟩ := List.mem_map.mp ht
  rw [String.toList_ofList] at hmem
  have hall := Text.isIdentifierPart_of_mem (List.all_eq_true.mp h part hpart) hmem
  rw [hslash] at hall
  cases hall

lemma of_isName (h : Document.Token.isName s = true) : Slashless s := by
  have hslash : Document.Token.isNamePart '/' = false := by decide
  obtain ⟨c, cs, hcs, hstart, hparts⟩ := Document.Token.isName_cases h
  intro hmem
  have hall : Document.Token.isNamePart '/' = true := by
    rw [hcs] at hmem
    rcases List.mem_cons.mp hmem with rfl | hmem
    · exact Bool.or_eq_true_iff.mpr (.inl hstart)
    · exact hparts _ hmem
  rw [hslash] at hall
  cases hall

lemma lower (h : Slashless s) : Slashless (Text.lower s) := by
  intro hslash
  rcases Text.mem_lower hslash with hsigma | ⟨d, hd, hmapped⟩
  · exact absurd hsigma (by decide)
  · have hsame : d = '/' :=
      Text.eq_of_mem_mapped (by decide) (by decide +kernel) (by decide +kernel) hmapped
    exact h (hsame ▸ hd)

lemma avoidKeyword (h : Slashless s) : Slashless (Naming.avoidKeyword s) := by
  unfold Naming.avoidKeyword
  split
  · exact h.append (by decide)
  · exact h

lemma operationPackage {c : Config} (hshared : Slashless c.typesNamespace)
    {operation? : Option String} (h : ∀ name, operation? = some name → Slashless name) :
    Slashless (DataTypes.operationPackage c operation?) := by
  unfold DataTypes.operationPackage
  split
  · exact hshared
  · exact hshared
  · rename_i name _
    have hmodule := (h name rfl).lower.avoidKeyword
    dsimp only
    refine (hshared.append (by decide)).append ?_
    split
    · exact hmodule.append (by decide)
    · exact hmodule

end Slashless

/-- In a text, the names of operations have no slashes. -/
lemma ExampleDocument.slashless_of_read? {text : String} {d : ExampleDocument}
    (h : ExampleDocument.read? text = some d) : ∀ e ∈ d, e.Slashless := by
  obtain ⟨document, hdocument, rfl⟩ := Option.map_eq_some_iff.mp h
  intro e he name hname
  obtain ⟨o, ho, rfl⟩ := List.mem_map.mp he
  obtain ⟨definition, hdefinition, hsome⟩ := List.mem_filterMap.mp ho
  have hoperation : definition = .operation o := by
    cases definition <;> cases hsome
    rfl
  exact .of_isName (Document.isName_of_read? hdocument (hoperation ▸ hdefinition) hname)

/-- No package of a run has a slash in its name, if no example operation has. -/
theorem slashless_of_generate {c : Config} {depth : ℤ} (hchecked : c.checked depth = .ok ctx.config)
    (hexamples : ∀ e ∈ ctx.examples, e.Slashless) (h : generate ctx = .ok o) :
    ∀ u ∈ o.classes, Slashless u.package := by
  obtain ⟨hpackage, hclient, htypes⟩ := Config.dotted_of_checked hchecked
  have hdot : Slashless "." := by decide
  have hclientNamespace : Slashless ctx.config.clientNamespace :=
    ((Slashless.of_isDottedName hpackage).append hdot).append (.of_isDottedName hclient)
  have htypesNamespace : Slashless ctx.config.typesNamespace :=
    ((Slashless.of_isDottedName hpackage).append hdot).append (.of_isDottedName htypes)
  obtain ⟨hqueries, hprojections, hdataTypes⟩ := packages_of_generate h
  intro u hu
  rcases List.mem_append.mp hu with hu | hu
  · rcases List.mem_append.mp hu with hu | hu
    · obtain ⟨q, hq, rfl⟩ := List.mem_map.mp hu
      show Slashless q.package
      rwa [hqueries q hq]
    · obtain ⟨p, hp, rfl⟩ := List.mem_map.mp hu
      show Slashless p.package
      rwa [hprojections p hp]
  · obtain ⟨d, hd, rfl⟩ := List.mem_map.mp hu
    show Slashless d.package
    rcases hdataTypes d hd with hsame | ⟨kind, e, hexample, hsame⟩
    · rwa [hsame]
    · rw [hsame]
      exact htypesNamespace.operationPackage (hexamples e (List.mem_of_find?_eq_some hexample))

end ClientGen
