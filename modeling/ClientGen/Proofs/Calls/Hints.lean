import ClientGen.Proofs.Calls.Covered
import ClientGen.Proofs.DataTypes.Hints
import ClientGen.Proofs.Generation.Plain

/-!
# Hints over many calls

The modules of a client import each other by the names in their hints. Whatever has been asked for
on a context, every type of the schema that a hint names has its class where the hint looks for it:
beside the class that carries the hint, if that is a data type, and in the shared package, if it is
a query or a projection.

* `exists_dataType` leads from a name that has been given out to its class.
* `hints_name_emitted_types` is the property of all histories.
-/

namespace ClientGen

open ClientGen.DataTypes ClientGen.Projection

variable {ctx : Context} {demand : String → Wanted → Prop}

/-! ## What a hint needs -/

/-- The hint is one for the type, and every type of the schema that it names has a class in the
package. Where the type is a custom scalar, the hint names the type of its handler, and the import
statement of the handler is there, if it has one. -/
structure HintCovered (ctx : Context) (o : Output) (package : String) (imports : List String)
    (typeName hint : String) : Prop where
  reads : ∃ isList isOptional, hint = ctx.scope.hint typeName isList isOptional
  types : ∀ t ∈ ctx.scope.hintedTypes typeName, t.kind.hasClass = true →
    ∃ d ∈ o.dataTypes, d.package = package ∧ d.name = t.name
  imports : ∀ scalar, ctx.scope.UsesScalar typeName scalar →
    ctx.scope.typeName typeName = scalar.typeName
      ∧ ∀ statement, scalar.importStatement? = some statement → statement ∈ imports

/-- The parameters stand for the arguments, and their hints find their types in the shared
package. -/
def ParametersCovered (ctx : Context) (o : Output) (imports : List String)
    (arguments : List InputValue) (parameters : List Parameter) : Prop :=
  List.Forall₂ (fun a p => p.name = a.name
    ∧ HintCovered ctx o ctx.config.typesNamespace imports a.typeName p.hint) arguments parameters

/-- The imports that a hint asks for are enough for the handler of its type. -/
lemma imports_of_importsFor {imports : List String} {typeName : String}
    (h : ctx.scope.importsFor typeName ⊆ imports) (scalar : ScalarType)
    (huses : ctx.scope.UsesScalar typeName scalar) :
    ctx.scope.typeName typeName = scalar.typeName
      ∧ ∀ statement, scalar.importStatement? = some statement → statement ∈ imports :=
  ⟨huses.typeName_eq, fun _ himport => h (huses.mem_importsFor himport)⟩

/-! ## From names to classes -/

/-- What is known of some calls that have come back: their classes are covered, and exactly their
names have been given out. -/
structure History.Complete (ctx : Context) (demand : String → Wanted → Prop) (h : History) :
    Prop where
  names : ctx.schema.Dotless
  covered : h.total.Covered ctx demand h.state.registry
  consistent : h.Consistent ctx
  returned : .endlessFragments ∉ h.failures

namespace History.Complete

variable {h : History} {package : String} {t : TypeDef}

lemma mem_names (hh : h.Complete ctx demand) {n : String} (hn : n ∈ h.state.registry.names) :
    n ∈ h.total.names := by
  have hcount := hh.consistent.exact hh.returned n
  have hpositive := List.count_pos_iff.mpr hn
  apply List.count_pos_iff.mp
  omega

/-- Outside the package of the client, a name of a type stands for a data type or a union. -/
lemma dataType_or_union (hh : h.Complete ctx demand)
    (hclient : package ≠ ctx.config.clientNamespace)
    (ht : t ∈ ctx.schema.types) (hgiven : package ++ "." ++ t.name ∈ h.state.registry.names) :
    (∃ d ∈ h.total.dataTypes, d.package = package ∧ d.name = t.name)
      ∨ ∃ u ∈ h.total.unions, u.package = package ∧ u.name = t.name := by
  have hname := hh.names.type ht
  rcases List.mem_append.mp (hh.mem_names hgiven) with hclass | hunion
  · obtain ⟨c, hc, hqualified⟩ := List.mem_map.mp hclass
    rcases List.mem_append.mp hc with hc | hc
    · rcases List.mem_append.mp hc with hc | hc
      · -- a query class
        obtain ⟨q, hq, rfl⟩ := List.mem_map.mp hc
        obtain ⟨hdotless, root, f, hf, hfield, _⟩ := hh.covered.queries q hq
        obtain ⟨hpackage, _⟩ := eq_of_qualified hdotless hname hqualified
        have hown : q.package = ctx.config.clientNamespace := by rw [hfield]; rfl
        exact (hclient (hpackage.symm.trans hown)).elim
      · -- a projection class
        obtain ⟨p, hp, rfl⟩ := List.mem_map.mp hc
        have hdotless := (hh.covered.projections p hp).dotless
        obtain ⟨hpackage, _⟩ := eq_of_qualified hdotless hname hqualified
        have hown := (hh.consistent.belongs.classes p hp).package
        exact (hclient (hpackage.symm.trans hown)).elim
    · obtain ⟨d, hd, rfl⟩ := List.mem_map.mp hc
      obtain ⟨u, _, hfound, _⟩ := hh.covered.dataTypes d hd
      have hdotless : Dotless d.name := by
        rw [← Schema.findType?_name hfound]
        exact hh.names.type (Schema.findType?_mem hfound)
      obtain ⟨hpackage, hsame⟩ := eq_of_qualified hdotless hname hqualified
      exact .inl ⟨d, hd, hpackage, hsame⟩
  · obtain ⟨u, hu, hqualified⟩ := List.mem_map.mp hunion
    obtain ⟨v, hfound, _⟩ := hh.covered.unions u hu
    have hdotless : Dotless u.name := by
      rw [← Schema.findType?_name hfound]
      exact hh.names.type (Schema.findType?_mem hfound)
    obtain ⟨hpackage, hsame⟩ := eq_of_qualified hdotless hname hqualified
    exact .inr ⟨u, hu, hpackage, hsame⟩

/-- A type that has a class of its own has it where it is settled. -/
theorem exists_dataType (hh : h.Complete ctx demand)
    (hclient : package ≠ ctx.config.clientNamespace) {w : Wanted}
    (hsettled : Settled ctx package h.state.registry w)
    (hfound : ctx.schema.findType? w.typeName = some t) (hclass : t.kind.hasClass = true) :
    ∃ d ∈ h.total.dataTypes, d.package = package ∧ d.name = t.name := by
  have hscalar : t.kind ≠ .scalar := by
    intro hscalar
    rw [hscalar] at hclass
    cases hclass
  rcases hh.dataType_or_union hclient (Schema.findType?_mem hfound) (hsettled t hfound hscalar) with
    hdata | ⟨u, hu, _, hname⟩
  · exact hdata
  · -- a union of that name would be the type itself
    obtain ⟨v, hunion, hkind, _⟩ := hh.covered.unions u hu
    rw [hname, Schema.findType?_name hfound, hfound] at hunion
    obtain rfl := Option.some.inj hunion
    rw [hkind] at hclass
    cases hclass

/-- The members of a union are settled where the union is. -/
theorem settled_of_union (hh : h.Complete ctx demand)
    (hclient : package ≠ ctx.config.clientNamespace) {w : Wanted}
    (hsettled : Settled ctx package h.state.registry w)
    (hfound : ctx.schema.findType? w.typeName = some t) (hkind : t.kind = .union) :
    ∀ m ∈ ctx.schema.unionMembers w.typeName,
      Settled ctx package h.state.registry ⟨m.name, none⟩ := by
  have hscalar : t.kind ≠ .scalar := by rw [hkind]; decide
  have hname := Schema.findType?_name hfound
  rcases hh.dataType_or_union hclient (Schema.findType?_mem hfound) (hsettled t hfound hscalar) with
    ⟨d, hd, _, hsame⟩ | ⟨u, hu, hpackage, hsame⟩
  · -- a data type of that name would be the union itself, which has no class
    obtain ⟨v, selection?, hdata, hclass, _⟩ := hh.covered.dataTypes d hd
    rw [hsame, hname, hfound] at hdata
    obtain rfl := Option.some.inj hdata
    have hhas := (isClass_of_mem (hclass.described ▸ List.mem_singleton.mpr rfl)).1
    rw [hkind] at hhas
    cases hhas
  · obtain ⟨_, _, _, hmembers⟩ := hh.covered.unions u hu
    rw [hsame, hname, hpackage] at hmembers
    exact hmembers

/-- Where a type is settled that a hint refers to, what the hint names has its classes. -/
theorem exists_hinted (hh : h.Complete ctx demand)
    (hclient : package ≠ ctx.config.clientNamespace) {typeName : String}
    (hsettled : ctx.scope.isDataType typeName = true →
      Settled ctx package h.state.registry ⟨typeName, none⟩)
    (ht : t ∈ ctx.scope.hintedTypes typeName) (hclass : t.kind.hasClass = true) :
    ∃ d ∈ h.total.dataTypes, d.package = package ∧ d.name = t.name := by
  have hsettled := hsettled (TypeScope.isDataType_of_mem_hintedTypes ht)
  obtain ⟨u, hfound, hcases⟩ : ∃ u, ctx.schema.findType? typeName = some u
      ∧ (t = u ∨ u.kind = .union ∧ t ∈ ctx.schema.unionMembers typeName) :=
    TypeScope.mem_hintedTypes_cases ht
  rcases hcases with rfl | ⟨hkind, hmember⟩
  · exact hh.exists_dataType hclient hsettled hfound hclass
  · have hmembers := hh.settled_of_union hclient hsettled hfound hkind
    exact hh.exists_dataType hclient (hmembers t hmember)
      (Schema.findType?_of_mem_unionMembers hmember) hclass

end History.Complete

/-! ## Any calls -/

theorem History.complete_after (hdata : ctx.config.dataTypes = true)
    (hnames : ctx.schema.Dotless) (cs : List Call) (hcalls : ∀ c ∈ cs, c.Dotless)
    (hreturned : .endlessFragments ∉ (History.after ctx cs).failures) :
    (History.after ctx cs).Complete ctx fun _ _ => True := by
  have hcovered := History.covered_after hdata hnames (fun _ _ _ _ _ _ _ => trivial) cs hcalls
    (fun c _ => c.admitted_true) hreturned
  exact ⟨hnames, hcovered.1, History.consistent_after ctx cs, hreturned⟩

lemma parametersCovered {h : History} (hh : h.Complete ctx demand)
    (hclient : ctx.config.typesNamespace ≠ ctx.config.clientNamespace) {imports : List String}
    {arguments : List InputValue}
    (hcovered : ArgumentsCovered ctx h.state.registry arguments)
    (himports : ctx.argumentImports arguments ⊆ imports) (taken : List String)
    (allOptional : Bool) :
    ParametersCovered ctx h.total imports arguments
      (ctx.parameters taken allOptional arguments).1 := by
  unfold ParametersCovered
  induction arguments generalizing taken with
  | nil => exact .nil
  | cons a more ih =>
    have hrest := ih (fun b hb => hcovered b (List.mem_cons_of_mem _ hb))
      fun i hi => himports (List.mem_append_right _ hi)
    refine .cons ⟨rfl, ⟨_, _, rfl⟩, fun t ht hclass => ?_, ?_⟩ (hrest _)
    · exact hh.exists_hinted hclient (hcovered a List.mem_cons_self) ht hclass
    · exact imports_of_importsFor fun i hi => himports (List.mem_append_left _ hi)

/-- Over any calls that come back, in any order, every hint of a data type names types that have
classes in the same package, every hint of a query or projection names types that have classes in
the shared package, and the imports of a class hold those that its hints need. -/
theorem hints_name_emitted_types (ctx : Context) (hdata : ctx.config.dataTypes = true)
    (hnames : ctx.schema.Dotless) (cs : List Call) (hcalls : ∀ c ∈ cs, c.Dotless)
    (hreturned : .endlessFragments ∉ (History.after ctx cs).failures) :
    let total := (History.after ctx cs).total
    (∀ d ∈ total.dataTypes, d.package ≠ ctx.config.clientNamespace →
      ∃ t, ctx.schema.findType? d.name = some t
        ∧ ∀ field ∈ d.body.fields, ∃ typeName, HasField ctx t field.wireName typeName
          ∧ HintCovered ctx total d.package d.imports typeName field.hint)
    ∧ (ctx.config.typesNamespace ≠ ctx.config.clientNamespace →
      (∀ q ∈ total.queries, ∃ root, ∃ f ∈ ctx.schema.fieldsOf root, f.name = q.field
        ∧ ParametersCovered ctx total q.imports f.arguments q.parameters)
      ∧ ∀ c ∈ total.projections, ∀ m ∈ c.methods,
        match m.action with
        | .select field | .descend field _ =>
          ∃ f ∈ ctx.schema.fieldsOf c.schemaType, f.name = field
            ∧ ParametersCovered ctx total c.imports f.arguments m.parameters
        | .narrow _ _ => m.parameters = []) := by
  intro total
  have hh := History.complete_after hdata hnames cs hcalls hreturned
  refine ⟨fun d hd hclient => ?_, fun hclient => ⟨fun q hq => ?_, fun c hc m hm => ?_⟩⟩
  · obtain ⟨t, selection?, hfound, hclass, _, hsettled⟩ := hh.covered.dataTypes d hd
    refine ⟨t, hfound, fun field hfield => ?_⟩
    obtain ⟨typeName, hfrom⟩ := hclass.comesFrom hfield
    refine ⟨typeName, hfrom.declared, hfrom.hint, fun u hu hhas => ?_,
      imports_of_importsFor hfrom.imports⟩
    refine hh.exists_hinted hclient (fun hrefers => ?_) hu hhas
    obtain ⟨w, hw, hname⟩ := hfrom.refers hrefers
    -- what settles a reference is its type alone
    have hreference := hsettled w hw
    unfold Settled at hreference ⊢
    rw [hname] at hreference
    exact hreference
  · obtain ⟨_, root, f, hf, hfield, hcovered⟩ := hh.covered.queries q hq
    refine ⟨root, f, hf, ?_, ?_⟩
    · rw [hfield]
      rfl
    · rw [hfield]
      exact parametersCovered hh hclient hcovered (fun i hi => Text.mem_sortedSet.mpr hi) _ _
  · have hcovered := (hh.covered.projections c hc).methods m hm
    unfold Method.Covered at hcovered
    split <;> rename_i haction <;> rw [haction] at hcovered
    · obtain ⟨f, hf, hname, hparameters, harguments, himports⟩ := hcovered
      refine ⟨f, hf, hname, ?_⟩
      rw [hparameters]
      exact parametersCovered hh hclient harguments himports _ _
    · obtain ⟨f, hf, hname, hparameters, harguments, himports⟩ := hcovered
      refine ⟨f, hf, hname, ?_⟩
      rw [hparameters]
      exact parametersCovered hh hclient harguments himports _ _
    · exact hcovered

/-! ## A field with arguments -/

/-- The field `find(since: DateTime, sort: Sort): Film`. -/
def findField : Field :=
  { plainField "find" "Film" with
    arguments := [plainArgument "since" "DateTime", plainArgument "sort" "Sort"] }

/-- The field `reviews(limit: Limit): String`. -/
def reviewsField : Field :=
  { plainField "reviews" "String" with arguments := [plainArgument "limit" "Limit"] }

/-- An enum type, whose values do not matter here. -/
def plainEnum (name : String) : TypeDef where
  name
  kind := .enum
  values := [{ name := "all", description? := none }]

/-- The type `type Film { released: DateTime  format: Format  reviews(limit: Limit): String }`. -/
def screenedFilm : TypeDef where
  name := "Film"
  kind := .object
  fields := [plainField "released" "DateTime", plainField "format" "Format", reviewsField]

/-- The setting of these types, with nothing configured. -/
def screenings : Context where
  schema :=
    { types := [queryType findField, screenedFilm, plainEnum "Sort", plainEnum "Limit",
        plainEnum "Format"] }

/-- All fields of the schema go by different names. -/
lemma eq_of_mem_screenings {type : String} {f g : Field}
    (hf : f ∈ screenings.schema.fieldsOf type) (hg : g ∈ findField :: screenedFilm.fields)
    (hname : f.name = g.name) : f = g := by
  have hmem : f ∈ findField :: screenedFilm.fields := by
    rcases Schema.declared_of_mem_fieldsOf hf with ⟨t, ht, hf⟩ | ⟨e, he, _⟩
    · simp only [screenings, List.mem_cons, List.not_mem_nil, or_false] at ht
      rcases ht with rfl | rfl | rfl | rfl | rfl
      · exact List.mem_cons.mpr (.inl (List.mem_singleton.mp hf))
      · exact List.mem_cons_of_mem _ hf
      all_goals cases hf
    · cases he
  have hdifferent : ((findField :: screenedFilm.fields).map (·.name)).Nodup := by decide
  exact List.inj_on_of_nodup_map hdifferent hmem hg hname

lemma eq_typeName_of_hasField {g : Field} {typeName : String} (hg : g ∈ screenedFilm.fields)
    (h : HasField screenings screenedFilm g.name typeName) : typeName = g.typeName := by
  generalize hname : g.name = name at h
  cases h with
  | output _ hf => rw [eq_of_mem_screenings hf (List.mem_cons_of_mem _ hg) hname.symm]
  | input _ ha => cases ha

/-- What the call for the query type makes: its class, the class of the projection, and the data
types of the arguments and of the fields. -/
lemma after_screenings :
    let h := History.after screenings [.root (queryType findField)]
    h.failures = []
      ∧ h.total.queries = [queryClass screenings .query findField]
      ∧ (∃ c ∈ h.total.projections, ∃ m ∈ c.methods,
        m.action = .select "reviews" ∧ m.parameters.map (·.hint) = ["Optional[Limit]"])
      ∧ ∃ d ∈ h.total.dataTypes, d.package = "generated.types" ∧ d.name = "Film"
        ∧ d.body.fields.map (·.wireName) = ["released", "format", "reviews"]
        ∧ d.body.fields.map (·.hint)
          = ["Optional[datetime]", "Optional[Format]", "Optional[str]"] := by
  let asked : RunState :=
    { registry := ⟨["generated.types.Sort", "generated.client.FindGraphQLQuery"]⟩ }
  let opened : RunState :=
    { registry := ⟨"generated.client.FindProjectionRoot" :: asked.registry.names⟩ }
  let filled : RunState := { registry := ⟨"generated.types.Limit" :: opened.registry.names⟩ }
  let done : RunState :=
    { registry := ⟨["generated.types.Format", "generated.types.Film"] ++ filled.registry.names⟩ }
  have hgrow : Body.grow screenings (.start "Film" none) ["Film"]
      = [plainField "released" "DateTime", plainField "format" "Format"].foldr .leaf
          (.leaf reviewsField .done) := by
    rw [Body.grow_eq]
    rfl
  have hquery : emitQuery screenings .query findField {} = .ok _ asked :=
    emitQuery_of_types (by decide)
      (argumentTypes_of_free (t := plainEnum "Sort") rfl rfl rfl (by decide) (by decide) rfl)
  have hmembers : emitBody screenings none ((rootPlan "find").frame "Find") Naming.projectionNames
      ([plainField "released" "DateTime", plainField "format" "Format"].foldr .leaf
        (.leaf reviewsField .done)) opened = .ok _ filled :=
    emitBody_leaves (by decide) (emitBody_leaf
      (argumentTypes_of_free (t := plainEnum "Limit") rfl rfl rfl (by decide) (by decide) rfl) rfl)
  have hown : ownTypes screenings none (headAt screenings screenedFilm none) filled = .ok _ done :=
    run_cons_of_free (t := screenedFilm) rfl rfl (by decide) (by decide)
      (run_of_free (w := ⟨"Format", none⟩) (t := plainEnum "Format") rfl rfl (by decide) (by decide)
        rfl)
  have htree : emitRootProjection screenings (queryType findField) none findField asked
      = .ok _ done :=
    emitTree_of_members (t := screenedFilm) hgrow (by decide) hmembers hown
  have hnone : emitRootFields screenings .query (queryType findField) [] done = .ok ∅ done := rfl
  have hmade : emitRootFields screenings (rootKind screenings (queryType findField))
      (queryType findField) (rootFields screenings (rootKind screenings (queryType findField))
        (queryType findField)).fields {} = .ok _ done :=
    emitRootFields_of_cons hquery htree hnone
  have hrun : generateRoot screenings (queryType findField) {} = .ok _ done :=
    generateRoot_of_fields rfl hmade
  have hafter : History.after screenings [.root (queryType findField)] = _ :=
    History.step_of_ok (c := .root (queryType findField)) hrun
  intro h
  rw [show h = _ from hafter]
  refine ⟨rfl, rfl, ⟨_, List.mem_cons_self, _,
    List.mem_cons_of_mem _ (List.mem_cons_of_mem _ List.mem_cons_self), rfl, by decide +kernel⟩, ?_⟩
  exact ⟨_, List.mem_cons_of_mem _ List.mem_cons_self, by decide, rfl, by decide +kernel,
    by decide +kernel⟩

/-- What stands in the hints of arguments and fields has its classes, and its imports. -/
theorem hints_name_emitted_types_screenings :
    let h := History.after screenings [.root (queryType findField)]
    .endlessFragments ∉ h.failures
      ∧ (∃ q ∈ h.total.queries,
        q.parameters.map (·.hint) = ["Optional[datetime]", "Optional[Sort]"]
        ∧ "from datetime import datetime" ∈ q.imports)
      ∧ (∃ c ∈ h.total.projections, ∃ m ∈ c.methods,
        m.parameters.map (·.hint) = ["Optional[Limit]"])
      ∧ (∃ d ∈ h.total.dataTypes,
        d.body.fields.map (·.hint) = ["Optional[datetime]", "Optional[Format]", "Optional[str]"]
        ∧ "from datetime import datetime" ∈ d.imports)
      ∧ ∀ name ∈ ["Sort", "Limit", "Format"],
        ∃ d ∈ h.total.dataTypes, d.package = "generated.types" ∧ d.name = name := by
  intro h
  obtain ⟨hfailures, hqueries, ⟨c, hc, m, hm, hselect, hlimits⟩,
    d, hd, hpackage, hname, hwires, hhints⟩ := after_screenings
  have hreturned : .endlessFragments ∉ h.failures := by
    rw [hfailures]
    exact List.not_mem_nil
  obtain ⟨hfields, hclient⟩ := hints_name_emitted_types screenings rfl (by decide)
    [.root (queryType findField)] (by simp [Call.Dotless]) hreturned
  obtain ⟨hquery, hmethods⟩ := hclient (by decide)
  have hdate : screenings.scope.UsesScalar "DateTime" (.imported "datetime" "datetime") :=
    ⟨rfl, rfl⟩
  -- the query class
  have hq : queryClass screenings .query findField ∈ h.total.queries := by
    rw [hqueries]
    exact List.mem_singleton.mpr rfl
  obtain ⟨_, f, hf, hsame, hparameters⟩ := hquery _ hq
  obtain rfl := eq_of_mem_screenings hf List.mem_cons_self hsame
  obtain ⟨_, _, ⟨_, hsince⟩, hrest, _⟩ := List.forall₂_cons_left_iff.mp hparameters
  obtain ⟨_, _, ⟨_, hsort⟩, _, _⟩ := List.forall₂_cons_left_iff.mp hrest
  -- the method
  have hmethod := hmethods c hc m hm
  rw [hselect] at hmethod
  obtain ⟨f, hf, hsame, hparameters⟩ := hmethod
  obtain rfl : f = reviewsField := eq_of_mem_screenings hf (by simp [screenedFilm]) hsame
  obtain ⟨_, _, ⟨_, hlimit⟩, _, _⟩ := List.forall₂_cons_left_iff.mp hparameters
  -- the model
  obtain ⟨t, hfound, hcovered⟩ := hfields d hd (by rw [hpackage]; decide)
  rw [hname] at hfound
  obtain rfl : screenedFilm = t := Option.some.inj hfound
  have hfield : ∀ g ∈ screenedFilm.fields, g.name ∈ d.body.fields.map (·.wireName) →
      ∃ hint, HintCovered screenings h.total d.package d.imports g.typeName hint := by
    intro g hg hwire
    obtain ⟨field, hfield, hsame⟩ := List.mem_map.mp hwire
    obtain ⟨_, hhas, hcovers⟩ := hcovered field hfield
    rw [hsame] at hhas
    rw [eq_typeName_of_hasField hg hhas] at hcovers
    exact ⟨_, hcovers⟩
  rw [hwires] at hfield
  obtain ⟨_, hreleased⟩ := hfield (plainField "released" "DateTime") List.mem_cons_self
    List.mem_cons_self
  obtain ⟨_, hformat⟩ := hfield (plainField "format" "Format")
    (List.mem_cons_of_mem _ List.mem_cons_self) (List.mem_cons_of_mem _ List.mem_cons_self)
  refine ⟨hreturned, ⟨_, hq, by decide +kernel, (hsince.imports _ hdate).2 _ (by decide)⟩,
    ⟨c, hc, m, hm, hlimits⟩, ⟨d, hd, hhints, (hreleased.imports _ hdate).2 _ (by decide)⟩,
    fun name hname => ?_⟩
  simp only [List.mem_cons, List.not_mem_nil, or_false] at hname
  rcases hname with rfl | rfl | rfl
  · exact hsort.types (plainEnum "Sort") List.mem_cons_self rfl
  · exact hlimit.types (plainEnum "Limit") List.mem_cons_self rfl
  · exact hpackage ▸ hformat.types (plainEnum "Format") List.mem_cons_self rfl

end ClientGen
