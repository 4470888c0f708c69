import ClientGen.Proofs.Calls.Requested
import ClientGen.Proofs.Generation.Models
import ClientGen.Proofs.Generation.RootFields

/-!
# Models in the shared package

The data types of an example operation go to a package of their own, if the operation has a name.
Only what no example selects goes to the shared package: the types of arguments, of root types
without an example, and of entities, and whatever these refer to. So where all examples have names,
the models of the shared package have all fields, however the walks of the run come after each
other.

* `Asks.selection?_eq_none_of_shared` says that the shared package is asked for without selections.
* `shared_models_keep_fields` is what it comes to for the models.
-/

namespace ClientGen

open ClientGen.DataTypes ClientGen.Projection

variable {ctx : Context} {o : Output}

/-! ## Packages of examples -/

/-- The operation has a name; an empty one is none. -/
def ExampleOperation.IsNamed (e : ExampleOperation) : Prop :=
  ∃ name, e.name? = some name ∧ name ≠ ""

/-- The package of an operation with a name lies inside the shared one. -/
lemma operationPackage_ne_of_named (c : Config) {name : String} (h : name ≠ "") :
    operationPackage c (some name) ≠ c.typesNamespace := by
  intro hsame
  have hlength := congrArg String.length hsame
  have hdot : ".".length = 1 := rfl
  unfold operationPackage at hlength
  split at hlength
  · rename_i hnone
    cases hnone
  · rename_i hempty
    exact h (Option.some.inj hempty)
  · -- the package has a dot and a module more than the shared one
    rw [String.length_append, String.length_append, hdot] at hlength
    omega

/-- A walk belongs to the first operation of a kind, or to none. -/
lemma StartsWalk.example_or_none {operation? : Option String} {p : Position}
    (h : StartsWalk ctx operation? p) :
    (∃ kind e, ctx.example? kind = some e ∧ operation? = e.name?)
      ∨ operation? = none ∧ p.selection? = none := by
  cases h with
  | @field root f p hroot hf hp =>
    unfold operationOf?
    cases hexample : ctx.example? (rootKind ctx root) with
    | some e => exact .inl ⟨_, e, hexample, rfl⟩
    | none =>
      unfold rootStart? at hp
      rw [hexample] at hp
      obtain ⟨target, _, rfl⟩ := Option.map_eq_some_iff.mp hp
      exact .inr ⟨rfl, rfl⟩
  | entity ht => exact .inr ⟨rfl, rfl⟩

/-! ## What the shared package is asked for -/

/-- Data types are asked for in the shared package, or in that of the first operation of a kind. -/
lemma Asks.package_cases {package : String} {w : Wanted} (h : Asks ctx package w) :
    package = ctx.config.typesNamespace
      ∨ ∃ kind e, ctx.example? kind = some e ∧ package = operationPackage ctx.config e.name? := by
  induction h with
  | position hp hq =>
    rcases hp.example_or_none with ⟨kind, e, hexample, rfl⟩ | ⟨rfl, _⟩
    · exact .inr ⟨kind, e, hexample, rfl⟩
    · exact .inl rfl
  | argument => exact .inl rfl
  | rootArgument => exact .inl rfl
  | reference _ _ _ ih => exact ih

/-- Where all examples have names, a selection never comes with the shared package. -/
theorem Asks.selection?_eq_none_of_shared
    (hnamed : ∀ kind e, ctx.example? kind = some e → e.IsNamed) {package : String} {w : Wanted}
    (h : Asks ctx package w) (hshared : package = ctx.config.typesNamespace) :
    w.selection? = none := by
  induction h with
  | position hp hq =>
    rcases hp.example_or_none with ⟨kind, e, hexample, rfl⟩ | ⟨_, hnone⟩
    · -- the package of an example is not the shared one
      obtain ⟨name, hname, hnonempty⟩ := hnamed kind e hexample
      rw [hname] at hshared
      exact (operationPackage_ne_of_named ctx.config hnonempty hshared).elim
    · exact selection?_eq_none_of_nested hq hnone
  | argument => rfl
  | rootArgument => rfl
  | reference _ _ hv ih =>
    -- what is asked for without a selection refers to other types without one
    rw [ih hshared] at hv
    exact selection?_of_mem_references hv

/-! ## Models of a run -/

/-- All data types of a run have been asked for. -/
theorem requested_of_generate (h : generate ctx = .ok o) : o.Requested ctx (Asks ctx) := by
  obtain ⟨st', hafter⟩ := after_of_generate h
  have hrequested := History.requested_after (hereditary_asks ctx) (generationCalls ctx)
    fun c hc => Call.admitted_asks hc
  rw [hafter] at hrequested
  exact hrequested

/-- Only object and interface types come to models. -/
lemma kind_of_model {package : String} {t : TypeDef} {selection? : Option Selection}
    {d : DataClass} {fields : List DataField} (h : IsClass ctx package t selection? d)
    (hbody : d.body = .model fields) : t.kind = .object ∨ t.kind = .interface := by
  have hdescribed := h.described
  unfold describe at hdescribed
  cases hkind : t.kind with
  | object => exact .inl rfl
  | interface => exact .inr rfl
  | union | scalar =>
    rw [hkind] at hdescribed
    cases hdescribed
  | enum | input =>
    rw [hkind] at hdescribed
    obtain rfl := (List.cons.inj hdescribed).1
    cases hbody

/-- Where the first operation of each kind has a name, the models of the shared package have
exactly the fields that are kept of their types without a selection, in order; all other data types
are in the package of one of these operations. -/
theorem shared_models_keep_fields
    (hnamed : ∀ kind e, ctx.example? kind = some e → e.IsNamed) (h : generate ctx = .ok o) :
    (∀ d ∈ o.dataTypes, d.package = ctx.config.typesNamespace →
        ∀ fields, d.body = .model fields →
          let kept := (ctx.config.selectFields d.name (ctx.schema.fieldsOf d.name) none false).fields
          (∃ t, ctx.schema.findType? d.name = some t)
            ∧ fields = modelFields ctx.scope [Naming.typenameField] kept
            ∧ fields.map (·.wireName) = kept.map (·.name))
      ∧ ∀ d ∈ o.dataTypes, d.package ≠ ctx.config.typesNamespace →
          ∃ kind e, ctx.example? kind = some e ∧ d.package = operationPackage ctx.config e.name? := by
  have hrequested := requested_of_generate h
  constructor
  · intro d hd hshared fields hbody kept
    obtain ⟨t, selection?, hfound, hclass, hasked⟩ := hrequested.dataTypes d hd
    obtain rfl : selection? = none := hasked.selection?_eq_none_of_shared hnamed hshared
    have hmodel := (hclass.model (kind_of_model hclass hbody)).1
    rw [hbody, ← hclass.sameName] at hmodel
    have hfields : fields = modelFields ctx.scope [Naming.typenameField] kept :=
      DataBody.model.inj hmodel
    refine ⟨⟨t, hfound⟩, hfields, ?_⟩
    rw [hfields]
    exact map_wireName_modelFields ctx.scope _ kept
  · intro d hd hother
    obtain ⟨t, selection?, _, _, hasked⟩ := hrequested.dataTypes d hd
    exact hasked.package_cases.resolve_left hother

/-! ## An example for one of two root types -/

/-- The root class of a root field is its own root. -/
lemma root?_of_base_root (hapart : ctx.TypesApart) {roots : Output} {ts : List TypeDef}
    {st st' : RunState} (h : generateRoots ctx ts st = .ok roots st') {c : ProjectionClass}
    (hc : c ∈ roots.projections) (hbase : c.base = .root) : c.root? = some c.name := by
  obtain ⟨_, item, _, _, _, _, target, tree, _, _, _, htree, hd, _⟩ :=
    (plants_generateRoots h).grown c hc
  rcases inner_emitTree hapart (hapart.operation (rootKind ctx item.1)) htree with
    ⟨_, rfl, _⟩ | ⟨_, members, below, hinner, rfl⟩
  · cases hd
  · rcases List.mem_append.mp hd with hd | hd
    · rw [List.mem_singleton.mp hd]
      rfl
    · exact ((hinner.projections c hd).base hbase).elim

/-- The setting of the example for the query type, next to a mutation type without an example. -/
def shownAndRated : Context where
  schema := { types := [filmQuery, rateMutation "Film", film] }
  examples := shown.examples

/-- The example selects one field of a film at a time; the model of the shared package, which the
mutation asks for, has both. -/
theorem shared_models_keep_fields_shownAndRated :
    ∃ o, generate shownAndRated = .ok o
      ∧ ∃ d ∈ o.dataTypes, d.package = shownAndRated.config.typesNamespace ∧ d.name = "Film"
        ∧ d.body.fields.map (·.wireName) = ["title", "year"] := by
  have hnames : shownAndRated.schema.Dotless := by decide
  have hexample : ∀ kind e, shownAndRated.example? kind = some e → e.name? = some "Shown" := by
    intro kind e he
    unfold Context.example? ExampleDocument.find? at he
    obtain rfl := List.mem_singleton.mp (List.mem_of_find?_eq_some he)
    rfl
  have hapart : shownAndRated.TypesApart := by
    refine ⟨by decide, fun kind e he => ?_⟩
    rw [hexample kind e he]
    decide
  obtain ⟨o, ho⟩ : ∃ o, generate shownAndRated = .ok o :=
    exists_generate_of_objectMembers (by decide) (by decide) (by decide)
  obtain ⟨roots, mid, entities, st', hroots, hentities, hsplit⟩ := exists_of_generate ho
  -- the mutation has a root class, so the model of its type is there
  have hmade : ("RateProjectionRoot", "Film") ∈ o.fieldRoots shownAndRated := by
    rw [(serves_of_generate hnames hapart ho).2]
    exact List.mem_cons_of_mem _ (List.mem_cons_of_mem _ List.mem_cons_self)
  obtain ⟨c, hc, hbase, hname, htype, hnot⟩ := exists_of_mem_fieldRoots hmade
  subst hsplit
  have hroot : c.root? = some c.name := by
    rcases List.mem_append.mp hc with hc | hc
    · exact root?_of_base_root hapart hroots hc hbase
    · rw [(of_generateEntities hapart hentities).2 c hc hbase] at hnot
      cases hnot
  have hitem : c.treeRoot? shownAndRated
      = some (rateMutation "Film", plainField "rate" "Film") := by
    unfold ProjectionClass.treeRoot?
    rw [hroot, hname]
    rfl
  have hfound : shownAndRated.schema.findType? c.schemaType = some film := by
    rw [htype]
    rfl
  have hsettled := settled_of_generate rfl hroots hentities hc hitem ⟨film, hfound, .inl rfl⟩
  have hcomplete := complete_of_generate rfl hnames hroots hentities
  obtain ⟨d, hd, hpackage, hsame⟩ :=
    hcomplete.exists_dataType hapart.shared hsettled hfound rfl
  have hkept := (shared_models_keep_fields
    (fun kind e he => ⟨"Shown", hexample kind e he, by decide⟩) ho).1 d hd hpackage
  obtain ⟨u, selection?, hu, hclass, _⟩ := (requested_of_generate ho).dataTypes d hd
  rw [hsame] at hu
  obtain rfl : film = u := Option.some.inj hu
  have hbody := (hclass.model (.inl rfl)).1
  refine ⟨_, ho, d, hd, hpackage, hsame, ?_⟩
  rw [hbody]
  rw [hsame] at hkept
  exact (hkept _ hbody).2.2

end ClientGen
