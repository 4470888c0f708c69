import ClientGen.Proofs.Generation.Asked
import ClientGen.Proofs.Generation.Methods
import ClientGen.Proofs.Generation.Plain

/-!
# Models of what projections select

A projection class stands at a position of the walk, and the model of its type is in the package of
the operation. There is one model for each type and package: it is shaped by the first selection
that the type is asked for with, and positions that come later have to make do with it.

* `ownSettled_of_emitTree` follows the types of the classes of a tree.
* `models_declare_shared_fields` says which model there is, and that it declares each field that
  every selection of the type keeps: without examples, whatever the class can select.
* `shown_selects_undeclared` is an example document whose second selection is left out.
-/

namespace ClientGen

open ClientGen.DataTypes ClientGen.Projection
open Relation (ReflTransGen)

variable {ctx : Context} {operation? : Option String} {o : Output} {st st' : RunState}

/-! ## Types of classes -/

/-- The class has an object or interface type. -/
def HasModel (ctx : Context) (typeName : String) : Prop :=
  ∃ t, ctx.schema.findType? typeName = some t ∧ (t.kind = .object ∨ t.kind = .interface)

/-- The class is in the tree of a root, and the model of its type has been asked for. -/
structure OwnSettled (ctx : Context) (operation? root? : Option String) (r : Naming.Registry)
    (d : ProjectionClass) : Prop where
  root : d.root? = root?
  own : HasModel ctx d.schemaType →
    Settled ctx (operationPackage ctx.config operation?) r ⟨d.schemaType, none⟩

lemma OwnSettled.mono {root? : Option String} {r r' : Naming.Registry} {d : ProjectionClass}
    (h : OwnSettled ctx operation? root? r d) (hkeeps : r.names ⊆ r'.names) :
    OwnSettled ctx operation? root? r' d :=
  ⟨h.root, fun hmodel => (h.own hmodel).mono hkeeps⟩

/-- At an object or interface type the model is asked for. -/
lemma settled_of_ownTypes (hdata : ctx.config.dataTypes = true) {head : Head} {own : Output}
    (hkind : head.type.kind = .object ∨ head.type.kind = .interface)
    (h : ownTypes ctx operation? head st = .ok own st') :
    Settled ctx (operationPackage ctx.config operation?) st'.registry ⟨head.type.name, none⟩ := by
  have hrun : DataTypes.run ctx (operationPackage ctx.config operation?)
      [⟨head.type.name, head.selection?⟩] st = .ok own st' := by
    unfold ownTypes at h
    rcases hkind with hkind | hkind <;> rw [hkind] at h <;> exact h
  have hall : Hereditary ctx fun _ _ => True := fun _ _ _ _ _ _ _ => trivial
  obtain ⟨_, hsettled, _⟩ := covered_of_run hdata hall (fun _ _ => trivial) hrun
  exact hsettled ⟨head.type.name, head.selection?⟩ List.mem_cons_self

/-- A type that is found by its name has the kind that the name tells. -/
lemma modelKind_of_findType? {name : String} {t : TypeDef}
    (ht : ctx.schema.findType? name = some t) (hmodel : HasModel ctx t.name) :
    t.kind = .object ∨ t.kind = .interface := by
  obtain ⟨u, hu, hkind⟩ := hmodel
  rw [Schema.findType?_name ht, ht] at hu
  obtain rfl := Option.some.inj hu
  exact hkind

/-- A type that the walk narrows to has the kind that its name tells, as far as models go. -/
lemma modelKind_of_mem_narrowingsAt {p : Position} {t : TypeDef} (ht : t ∈ narrowingsAt ctx p)
    (hmodel : HasModel ctx t.name) : t.kind = .object ∨ t.kind = .interface := by
  unfold narrowingsAt at ht
  split at ht
  · cases ht
  · rename_i u _
    have hconcrete := Config.mem_of_mem_selectConcreteTypes ht
    unfold Schema.concreteTypes at hconcrete
    split at hconcrete
    · -- only objects implement interfaces
      have himplements := (List.mem_filter.mp hconcrete).2
      left
      simpa using (Bool.and_eq_true_iff.mp himplements).1
    · exact modelKind_of_findType? (Schema.findType?_of_mem_unionMembers hconcrete) hmodel
    · cases hconcrete

/-- A class and those below it. -/
lemma ownSettled_output (hdata : ctx.config.dataTypes = true) {plan : ClassPlan} {head : Head}
    {stem : String} {body : Body} {inner : Members} {own : Output} {ready filled : RunState}
    (hkind : HasModel ctx head.type.name → head.type.kind = .object ∨ head.type.kind = .interface)
    (hinner : Emits ctx operation? (plan.frame stem) Naming.projectionNames body ready inner filled)
    (hown : ownTypes ctx operation? head filled = .ok own st')
    (hbelow : ∀ d ∈ inner.below.projections,
      OwnSettled ctx operation? plan.rootClass? filled.registry d) :
    ∀ d ∈ (plan.output ctx head inner own).projections,
      OwnSettled ctx operation? plan.rootClass? st'.registry d := by
  have hbrings := bringsTypes_of_ownTypes hown
  rw [projections_output plan head inner hbrings.projections (arguments_of_emits hinner)]
  intro d hd
  rcases List.mem_cons.mp hd with rfl | hd
  · exact ⟨rfl, fun hmodel => settled_of_ownTypes hdata (hkind hmodel) hown⟩
  · exact (hbelow d hd).mono hbrings.accounts.keeps

/-- All classes below a class are in its tree, and the models of their types are asked for. -/
theorem ownSettled_of_emits (hdata : ctx.config.dataTypes = true) {frame : Frame}
    {taken : List String} {body : Body} {members : Members}
    (h : Emits ctx operation? frame taken body st members st') {p : Position}
    {trail : List String} (hfollows : body.Follows ctx p trail) :
    ∀ d ∈ members.below.projections,
      OwnSettled ctx operation? frame.rootClass? st'.registry d := by
  induction h generalizing p trail with
  | done => intro d hd; cases hd
  | leaf _ _ ih => exact ih hfollows.2.2
  | @branch frame taken f target below rest stem childStem inner members arguments own _ _ _ _ closed
      _ _ _ _ hinner hown hmore ihBelow ihRest =>
    obtain ⟨hleads, _, rfl, hrest⟩ := hfollows
    have hchild := ownSettled_output hdata
      (modelKind_of_findType? (Schema.findSelectable?_eq_some hleads.found)) hinner hown
      (ihBelow (Body.follows_grow ctx _ _))
    intro d hd
    rcases List.mem_append.mp hd with hd | hd
    · exact (hchild d hd).mono (keeps_of_emits hmore)
    · exact ihRest hrest d hd
  | @fragment frame taken target below rest stem childStem inner members own _ _ _ closed _ _ _
      hinner hown hmore ihBelow ihRest =>
    obtain ⟨hnarrows, _, rfl, hrest⟩ := hfollows
    have hchild := ownSettled_output hdata
      (modelKind_of_mem_narrowingsAt hnarrows) hinner hown (ihBelow (Body.follows_grow ctx _ _))
    intro d hd
    rcases List.mem_append.mp hd with hd | hd
    · exact (hchild d hd).mono (keeps_of_emits hmore)
    · exact ihRest hrest d hd

/-- The same for a whole tree. -/
theorem ownSettled_of_emitTree (hdata : ctx.config.dataTypes = true) {plan : ClassPlan}
    {t : TypeDef} {selection? : Option Selection}
    (hkind : HasModel ctx t.name → t.kind = .object ∨ t.kind = .interface)
    (h : emitTree ctx operation? plan t selection? st = .ok o st') :
    ∀ d ∈ o.projections, OwnSettled ctx operation? plan.rootClass? st'.registry d := by
  rcases emitTree_cases h with ⟨_, rfl, rfl⟩ | h
  · intro d hd
    cases hd
  · obtain ⟨stem, ready, members, filled, own, _, hemits, hown, rfl⟩ := h
    exact ownSettled_output hdata hkind hemits hown
      (ownSettled_of_emits hdata hemits (Body.follows_grow ctx _ _))

/-! ## Classes of a run -/

/-- The root field in whose tree a class is. -/
def ProjectionClass.treeRoot? (ctx : Context) (c : ProjectionClass) : Option (TypeDef × Field) :=
  c.root?.bind (rootItem? ctx)

/-- The entities have classes only where the name of the federation root was free. -/
lemma free_of_generateEntities {definitions : List TypeDef}
    (h : generateEntities ctx definitions st = .ok o st') {d : ProjectionClass}
    (hd : d ∈ o.projections) : clientName ctx entitiesRoot ∉ st.registry.names := by
  rcases generateEntities_cases h with ⟨_, rfl, _⟩ | ⟨hfree, _⟩
  · cases hd
  · exact hfree

/-- A class of the entities is in the tree of the federation root, or is that root. -/
lemma root?_of_generateEntities (hdata : ctx.config.dataTypes = true)
    (h : generateEntities ctx (ctx.schema.typesOfKind .object) st = .ok o st')
    {d : ProjectionClass} (hd : d ∈ o.projections) :
    d.root? = none ∨ d.root? = some entitiesRoot := by
  rcases inKeyTree_of_generateEntities h d hd with hfederation | htree
  · left
    rw [of_decide_eq_true hfederation]
    rfl
  · right
    obtain ⟨t, ht, tree, _, _, htree, hmem, _⟩ := htree
    have hkind : t.kind = .object := by simpa using (List.mem_filter.mp ht).2
    exact (ownSettled_of_emitTree hdata (fun _ => .inl hkind) htree d hmem).root

/-- In a run, the model of a class in the tree of a root field has been asked for. -/
theorem settled_of_generate (hdata : ctx.config.dataTypes = true) {roots entities : Output}
    {mid : RunState} (hroots : generateRoots ctx (rootTypes ctx.schema) {} = .ok roots mid)
    (hentities : generateEntities ctx (ctx.schema.typesOfKind .object) mid = .ok entities st')
    {c : ProjectionClass} (hc : c ∈ (roots ++ entities).projections) {item : TypeDef × Field}
    (hitem : c.treeRoot? ctx = some item) (hmodel : HasModel ctx c.schemaType) :
    Settled ctx (operationPackage ctx.config (operationOf? ctx item.1)) st'.registry
      ⟨c.schemaType, none⟩ := by
  have hplants := plants_generateRoots hroots
  obtain ⟨root, hroot, hfound⟩ := Option.bind_eq_some_iff.mp hitem
  rcases List.mem_append.mp hc with hc | hc
  · obtain ⟨before, first, after, hitems, _, hfirst, htree⟩ := hplants.grown c hc
    obtain ⟨target, tree, _, _, hfind, htree, hmem, _, hgiven⟩ := htree
    have htarget := Schema.findSelectable?_eq_some hfind
    have hown := ownSettled_of_emitTree hdata (modelKind_of_findType? htarget) htree c hmem
    -- the class names its root, and the root its field
    have hsame : some root = some (rootPlan first.2.name).name := hroot.symm.trans hown.root
    obtain rfl := Option.some.inj hsame
    rw [rootItem?_of_first hitems hfirst] at hfound
    obtain rfl := Option.some.inj hfound
    have hkeeps := (tame_generateEntities ctx (ctx.schema.typesOfKind .object)).grows_of_ok hentities
    exact (hown.own hmodel).mono fun n hn => hkeeps.keeps.subset (hgiven hn)
  · -- the name of the federation root was free, so no root field has a class of that name
    have hfree := free_of_generateEntities hentities hc
    rcases root?_of_generateEntities hdata hentities hc with hnone | hentitiesRoot
    · rw [hnone] at hroot
      cases hroot
    · obtain rfl := Option.some.inj (hroot.symm.trans hentitiesRoot)
      have hname : (rootPlan item.2.name).name = entitiesRoot := by
        simpa using List.find?_some hfound
      have htaken := hplants.taken item (List.mem_of_find?_eq_some hfound)
      unfold rootName at htaken
      rw [hname] at htaken
      exact (hfree htaken).elim

/-! ## Fields -/

/-- The field that a method selects. -/
def Method.field? (m : Method) : Option String :=
  match m.action with
  | .select field | .descend field _ => some field
  | .narrow _ _ => none

/-- The class has a field for a field of the schema. -/
def DataClass.Declares (d : DataClass) (field : String) : Prop :=
  ∃ own ∈ d.body.fields, own.wireName = field

/-- The names of the fields that are chosen of a type. -/
def chosenNames (ctx : Context) (typeName : String) (selection? : Option Selection) :
    List String :=
  (ctx.choice typeName selection?).fields.map (·.name)

/-- Every selection that a type is asked for with in a package keeps the field. -/
def Shared (ctx : Context) (package typeName field : String) : Prop :=
  ∀ selection?, Asks ctx package ⟨typeName, selection?⟩ →
    field ∈ chosenNames ctx typeName selection?

lemma field?_of_fieldAction? {c : ProjectionClass} {up : List ProjectionClass} {f : Field}
    {action : MethodAction} (h : fieldAction? ctx c up f = some action) :
    action = .select f.name ∨ ∃ access, action = .descend f.name access := by
  unfold fieldAction? at h
  split at h
  · exact .inl (Option.some.inj h).symm
  · split at h
    · exact .inr ⟨_, (Option.some.inj h).symm⟩
    · cases h

/-- The methods of a class select fields that are chosen at its position. -/
lemma mem_chosenNames_of_generate (h : generate ctx = .ok o) {c : ProjectionClass}
    (hc : c ∈ o.projections) (hnot : c.isFederationRoot ctx = false) {m : Method}
    (hm : m ∈ c.methods) {field : String} (hfield : m.field? = some field) :
    ∃ up, field ∈ chosenNames ctx c.schemaType (selectionOf? ctx (c :: up)) := by
  obtain ⟨up, p, hplaced, hmethods, hknown⟩ := explained_of_generate h hc hnot
  obtain rfl := hplaced.position
  rw [actions_positionOf up hknown] at hmethods
  have haction : m.action ∈ actionsOf ctx c up := hmethods ▸ List.mem_map_of_mem hm
  refine ⟨up, ?_⟩
  unfold Method.field? at hfield
  rcases List.mem_append.mp haction with hfields | hnarrows
  · obtain ⟨f, hf, hentry⟩ := List.mem_filterMap.mp hfields
    have hname : field = f.name := by
      rcases field?_of_fieldAction? hentry with haction | ⟨access, haction⟩
      · rw [haction] at hfield
        exact (Option.some.inj hfield).symm
      · rw [haction] at hfield
        exact (Option.some.inj hfield).symm
    rw [hname]
    exact List.mem_map_of_mem hf
  · obtain ⟨t, _, hnarrow⟩ := List.mem_map.mp hnarrows
    rw [← hnarrow] at hfield
    cases hfield

/-- Without examples, nothing is selected along a chain. -/
lemma selectionOf?_eq_none (hexamples : ctx.examples = []) (chain : List ProjectionClass) :
    selectionOf? ctx chain = none := by
  induction chain with
  | nil => rfl
  | cons c above ih =>
    cases above with
    | nil =>
      unfold selectionOf? startSelection?
      split
      · cases hitem : rootItem? ctx c.name with
        | none => rfl
        | some item =>
          rw [Option.bind_some, example?_eq_none hexamples]
          rfl
      · rfl
    | cons parent up =>
      unfold selectionOf?
      rw [ih]
      cases (caller? parent c).map Method.action with
      | none => rfl
      | some action => cases action <;> rfl

/-- A model declares the fields that are chosen for it. -/
lemma declares_of_model {d : DataClass} {taken : List String} {typeName field : String}
    {selection? : Option Selection}
    (hbody : d.body = .model (modelFields ctx.scope taken (ctx.choice typeName selection?).fields))
    (hfield : field ∈ chosenNames ctx typeName selection?) : d.Declares field := by
  obtain ⟨f, hf, rfl⟩ := List.mem_map.mp hfield
  obtain ⟨own, hown, hstands⟩ := exists_of_forall₂ (forall₂_modelFields ctx.scope taken _).flip hf
  refine ⟨own, ?_, hstands.wireName⟩
  rw [hbody]
  exact hown

/-- For every class in the tree of a root field there is exactly one model of its type in the
package of the operation. It has the fields of one of the selections that the type is asked for
with there, so it declares what all of them keep; and without examples it declares whatever the
class can select. -/
theorem models_declare_shared_fields (hdata : ctx.config.dataTypes = true)
    (hnames : ctx.schema.Dotless) (h : generate ctx = .ok o) :
    ∀ c ∈ o.projections, ∀ item, c.treeRoot? ctx = some item → HasModel ctx c.schemaType →
      let package := operationPackage ctx.config (operationOf? ctx item.1)
      package ≠ ctx.config.clientNamespace →
        ∃ d ∈ o.dataTypes, d.package = package ∧ d.name = c.schemaType
          ∧ (∀ e ∈ o.dataTypes, e.package = package → e.name = c.schemaType → e = d)
          ∧ (∃ selection?, Asks ctx package ⟨c.schemaType, selection?⟩
            ∧ d.body = .model (modelFields ctx.scope [Naming.typenameField]
                (ctx.choice c.schemaType selection?).fields))
          ∧ ∀ m ∈ c.methods, ∀ field, m.field? = some field →
              ctx.examples = [] ∨ Shared ctx package c.schemaType field → d.Declares field := by
  intro c hc item hitem hmodel package hclient
  obtain ⟨roots, mid, entities, st', hroots, hentities, rfl⟩ := exists_of_generate h
  have hh := complete_of_generate hdata hnames hroots hentities
  have hsettled := settled_of_generate hdata hroots hentities hc hitem hmodel
  obtain ⟨t, hfound, hkind⟩ := hmodel
  have hclass : t.kind.hasClass = true := by rcases hkind with hkind | hkind <;> rw [hkind] <;> rfl
  obtain ⟨d, hd, hpackage, hname⟩ := hh.exists_dataType hclient hsettled hfound hclass
  rw [Schema.findType?_name hfound] at hname
  obtain ⟨u, selection?, hu, hisClass, hasked, _⟩ := hh.covered.dataTypes d hd
  rw [hname, hfound] at hu
  obtain rfl := Option.some.inj hu
  have hbody := (hisClass.model hkind).1
  rw [Schema.findType?_name hfound] at hbody
  rw [hpackage, hname] at hasked
  refine ⟨d, hd, hpackage, hname, fun e he hpackage' hname' => ?_, ⟨selection?, hasked, hbody⟩,
    fun m hm field hfield hshared => ?_⟩
  · -- no name is given out twice
    have hnodup : ((roots ++ entities).classes.map (·.qualifiedName)).Nodup :=
      (List.nodup_append.mp hh.consistent.nodup_names).1
    have hsame : (GeneratedClass.dataType e).qualifiedName
        = (GeneratedClass.dataType d).qualifiedName := by
      show e.package ++ "." ++ e.name = d.package ++ "." ++ d.name
      rw [hpackage, hpackage', hname, hname']
    have heq := List.inj_on_of_nodup_map hnodup
      (List.mem_append_right _ (List.mem_map_of_mem he))
      (List.mem_append_right _ (List.mem_map_of_mem hd)) hsame
    exact GeneratedClass.dataType.inj heq
  · apply declares_of_model hbody
    rcases hshared with hexamples | hshared
    · have hnot : c.isFederationRoot ctx = false := by
        apply decide_eq_false
        intro hroot
        have hnone : c.root? = none := congrArg ProjectionClass.root? hroot
        unfold ProjectionClass.treeRoot? at hitem
        rw [hnone] at hitem
        cases hitem
      obtain ⟨up, hchosen⟩ := mem_chosenNames_of_generate h hc hnot hm hfield
      rw [selectionOf?_eq_none hexamples] at hchosen
      have hnone : selection? = none := hasked.selection?_eq_none hexamples
      rw [hnone]
      exact hchosen
    · exact hshared selection? hasked

/-! ## An example that selects one type twice -/

/-- The type `type Film { title: String, year: Int }`. -/
def film : TypeDef where
  name := "Film"
  kind := .object
  fields := [plainField "title" "String", plainField "year" "Int"]

/-- A query type with two fields of the same type. -/
def filmQuery : TypeDef where
  name := "Query"
  kind := .object
  fields := [plainField "first" "Film", plainField "last" "Film"]

/-- The selection `first { title }`. -/
def firstSelected : Selection := .mk "first" [.mk "title" [] []] []

/-- The selection of some fields of the second film. -/
def lastSelecting (names : List String) : Selection :=
  .mk "last" (names.map fun name => .mk name [] []) []

/-- The selection `last { year }`. -/
def lastSelected : Selection := .mk "last" [.mk "year" [] []] []

/-- The setting of an example that selects the title of the first film, and some fields of the
second one, with nothing configured. -/
def shownWith (names : List String) : Context where
  schema := { types := [filmQuery, film] }
  examples :=
    [{ name? := some "Shown"
       kind := .query
       selection := .mk "Query" [firstSelected, lastSelecting names] [] }]

/-- The setting of `query Shown { first { title } last { year } }`, with nothing configured. -/
def shown : Context where
  schema := { types := [filmQuery, film] }
  examples :=
    [{ name? := some "Shown"
       kind := .query
       selection := .mk "Query" [firstSelected, lastSelected] [] }]

/-- The class for the second film, with its members. -/
def lastClass (names : List String) (members : Members) : ProjectionClass :=
  (rootPlan "last").made (shownWith names) (headAt (shownWith names) film (lastSelecting names))
    members

/-- The run on such an example. It has the class for the second film, and the data types are those
that are made for the first one. -/
lemma generate_shownWith (names : List String) {body : Body} {members : Members}
    (hgrow : Body.grow (shownWith names) (.start "Film" (some (lastSelecting names))) ["Film"]
      = body)
    (hmembers : ∀ st, emitBody (shownWith names) (some "Shown") ((rootPlan "last").frame "Last")
      Naming.projectionNames body st = .ok members st)
    (hbelow : members.below = ∅) (harguments : members.arguments = ∅) :
    ∃ o, generate (shownWith names) = .ok o ∧ lastClass names members ∈ o.projections
      ∧ o.dataTypes = (describeModel (shownWith names) "generated.types.shown" film
          (some firstSelected)).output.dataTypes := by
  let asked : RunState := { registry := ⟨["generated.client.FirstGraphQLQuery"]⟩ }
  let opened : RunState :=
    { registry := ⟨"generated.client.FirstProjectionRoot" :: asked.registry.names⟩ }
  let brought : RunState :=
    { registry := ⟨"generated.types.shown.Film" :: opened.registry.names⟩ }
  let askedAgain : RunState :=
    { registry := ⟨"generated.client.LastGraphQLQuery" :: brought.registry.names⟩ }
  let openedAgain : RunState :=
    { registry := ⟨"generated.client.LastProjectionRoot" :: askedAgain.registry.names⟩ }
  have hfree : "generated.types.shown.Film" ∉ opened.registry.names := by decide
  have hgiven : "generated.types.shown.Film" ∈ openedAgain.registry.names := by decide
  have hfirst : "generated.client.FirstProjectionRoot" ∉ asked.registry.names := by decide
  have hquery : "generated.client.LastGraphQLQuery" ∉ brought.registry.names := by decide
  have hlast : "generated.client.LastProjectionRoot" ∉ askedAgain.registry.names := by decide
  have hfirstGrow : Body.grow (shownWith names) (.start "Film" (some firstSelected)) ["Film"]
      = .leaf (plainField "title" "String") .done := by
    rw [Body.grow_eq]
    rfl
  have hfilm : (shownWith names).schema.findType? "Film" = some film := rfl
  have hmodel : ownTypes (shownWith names) (some "Shown")
      (headAt (shownWith names) film (some firstSelected)) opened = .ok _ brought :=
    run_of_free (w := ⟨"Film", some firstSelected⟩) rfl hfilm (by decide) hfree rfl
  have hpassed : ownTypes (shownWith names) (some "Shown")
      (headAt (shownWith names) film (some (lastSelecting names))) openedAgain
        = .ok _ openedAgain :=
    run_of_given (w := ⟨"Film", some (lastSelecting names)⟩) rfl hfilm (by decide) hgiven
  have hfirstQuery : emitQuery (shownWith names) .query (plainField "first" "Film") {}
      = .ok _ asked := emitQuery_of_free rfl List.not_mem_nil
  have hfirstTree : emitRootProjection (shownWith names) filmQuery
      ((shownWith names).example? .query) (plainField "first" "Film") asked = .ok _ brought :=
    emitTree_of_leaf (t := film) rfl hfirstGrow hfirst hmodel
  have hlastQuery : emitQuery (shownWith names) .query (plainField "last" "Film") brought
      = .ok _ askedAgain := emitQuery_of_free rfl hquery
  have hlastTree : emitRootProjection (shownWith names) filmQuery
      ((shownWith names).example? .query) (plainField "last" "Film") askedAgain
        = .ok _ openedAgain :=
    emitTree_of_members (t := film) hgrow hlast (hmembers _) hpassed
  have hnone : emitRootFields (shownWith names) .query filmQuery [] openedAgain
      = .ok ∅ openedAgain := rfl
  have hrest := emitRootFields_of_cons hlastQuery hlastTree hnone
  have hrun := generate_of_fields (shownWith names) filmQuery rfl rfl rfl
    (emitRootFields_of_cons hfirstQuery hfirstTree hrest)
  unfold ClassPlan.output at hrun
  rw [hbelow, harguments] at hrun
  -- the class comes after that of the first field
  exact ⟨_, hrun, List.mem_cons_of_mem _ List.mem_cons_self, rfl⟩

/-- No field of a film refers to anything. -/
lemma plain_of_mem_film {names : List String} {selection? : Option Selection} {f : Field}
    (hf : f ∈ ((shownWith names).choice "Film" selection?).fields) :
    f = plainField "title" "String" ∨ f = plainField "year" "Int" := by
  have hdeclared : f ∈ (shownWith names).schema.fieldsOf "Film" :=
    Config.mem_of_mem_selectFields hf
  have hfields : (shownWith names).schema.fieldsOf "Film"
      = [plainField "title" "String", plainField "year" "Int"] := rfl
  rw [hfields] at hdeclared
  simpa using hdeclared

/-- The walk goes no further than to a film. -/
lemma eq_of_nested_film {names : List String} {selection? : Option Selection} {q : Position}
    (hq : ReflTransGen (Nested (shownWith names)) (.start "Film" selection?) q) :
    q = .start "Film" selection? := by
  rcases ReflTransGen.cases_head hq with rfl | ⟨r, hstep, -⟩
  · rfl
  · cases hstep with
    | @descend f target h =>
      have hfound := h.found
      rcases plain_of_mem_film h.chosen with rfl | rfl <;> cases hfound
    | @narrow c h => cases Config.mem_of_mem_selectConcreteTypes h

/-- On such an example the run asks for the type of the films only, with one of the two
selections. -/
lemma eq_of_asks_shownWith {names : List String} {package : String} {w : Wanted}
    (h : Asks (shownWith names) package w) :
    w = ⟨"Film", some firstSelected⟩ ∨ w = ⟨"Film", some (lastSelecting names)⟩ := by
  have hroots : (rootFields (shownWith names) .query filmQuery).fields
      = [plainField "first" "Film", plainField "last" "Film"] := rfl
  have hstart : ∀ {operation? p}, StartsWalk (shownWith names) operation? p →
      p = .start "Film" (some firstSelected) ∨ p = .start "Film" (some (lastSelecting names)) := by
    intro operation? p hp
    cases hp with
    | field hroot hf hp =>
      obtain rfl := List.mem_singleton.mp hroot
      rcases List.mem_cons.mp (hroots ▸ hf) with rfl | hf
      · exact .inl (Option.some.inj hp).symm
      · obtain rfl := List.mem_singleton.mp hf
        exact .inr (Option.some.inj hp).symm
    | entity ht => cases ht
  induction h with
  | position hp hq =>
    rcases hstart hp with rfl | rfl <;> rw [eq_of_nested_film hq]
    · exact .inl rfl
    · exact .inr rfl
  | argument hp hq hf ha =>
    rcases hstart hp with rfl | rfl <;> rw [eq_of_nested_film hq] at hf <;>
      rcases plain_of_mem_film hf with rfl | rfl <;> cases ha
  | rootArgument hroot hf ha =>
    obtain rfl := List.mem_singleton.mp hroot
    rcases List.mem_cons.mp (hroots ▸ hf) with rfl | hf
    · cases ha
    · obtain rfl := List.mem_singleton.mp hf
      cases ha
  | @reference package w v t hw ht hv ih =>
    have hplain : ∀ selection?, v ∉ references (shownWith names) film selection? := by
      intro selection? hmem
      obtain ⟨f, hf, -⟩ := List.mem_map.mp hmem
      obtain ⟨hf, hdata⟩ := List.mem_filter.mp hf
      rcases plain_of_mem_film hf with rfl | rfl <;> cases hdata
    rcases ih with rfl | rfl <;> cases ht <;> exact absurd hv (hplain _)

/-- The example keeps the title of both films, and the year of the second one. So the model, which
is made for the first one, declares the title, whatever the class for the second one selects. -/
theorem models_declare_shared_fields_shownWith :
    ∃ o, generate (shownWith ["title", "year"]) = .ok o
      ∧ ∃ c ∈ o.projections,
        c.treeRoot? (shownWith ["title", "year"]) = some (filmQuery, plainField "last" "Film")
          ∧ c.methods.map (·.field?) = [some "title", some "year"]
          ∧ Shared (shownWith ["title", "year"]) "generated.types.shown" c.schemaType "title"
          ∧ ∃ d ∈ o.dataTypes, d.package = "generated.types.shown" ∧ d.name = c.schemaType
            ∧ d.Declares "title" ∧ ¬ d.Declares "year" := by
  have hgrow : Body.grow (shownWith ["title", "year"])
      (.start "Film" (some (lastSelecting ["title", "year"]))) ["Film"]
        = .leaf (plainField "title" "String") (.leaf (plainField "year" "Int") .done) := by
    rw [Body.grow_eq]
    rfl
  obtain ⟨o, hrun, hc, hmade⟩ := generate_shownWith ["title", "year"] hgrow
    (fun st => emitBody_leaf (argumentTypes_plain rfl st)
      (emitBody_leaf (argumentTypes_plain rfl st) rfl)) rfl rfl
  have hfilm : (shownWith ["title", "year"]).schema.findType? "Film" = some film := rfl
  have hshared : Shared (shownWith ["title", "year"]) "generated.types.shown" "Film" "title" := by
    intro selection? hasks
    rcases eq_of_asks_shownWith hasks with h | h <;> cases h <;> decide
  obtain ⟨d, hd, hpackage, hname, -, -, hdeclares⟩ :=
    models_declare_shared_fields rfl (by decide) hrun _ hc
      (filmQuery, plainField "last" "Film") rfl ⟨film, hfilm, .inl rfl⟩ (by decide)
  refine ⟨o, hrun, _, hc, rfl, rfl, hshared, d, hd, hpackage, hname,
    hdeclares _ List.mem_cons_self "title" rfl (.inr hshared), fun hyear => ?_⟩
  -- the model has been made for the first film
  rw [hmade] at hd
  obtain rfl := List.mem_singleton.mp hd
  obtain ⟨own, hown, hsame⟩ := hyear
  obtain rfl := List.mem_singleton.mp hown
  exact absurd hsame (by decide)

/-- The two fields are at positions of the same type. The model of the type is made for the first
one, so no model declares what the class of the second one selects. -/
theorem shown_selects_undeclared :
    shown.config.dataTypes = true
      ∧ operationPackage shown.config (some "Shown") ≠ shown.config.clientNamespace
      ∧ ∃ o, generate shown = .ok o
        ∧ ∃ c ∈ o.projections, c.treeRoot? shown = some (filmQuery, plainField "last" "Film")
          ∧ HasModel shown c.schemaType
          ∧ ∃ m ∈ c.methods, m.field? = some "year"
            ∧ ∀ d ∈ o.dataTypes, d.name = c.schemaType → ¬ d.Declares "year" := by
  have hgrow : Body.grow (shownWith ["year"]) (.start "Film" (some (lastSelecting ["year"])))
      ["Film"] = .leaf (plainField "year" "Int") .done := by
    rw [Body.grow_eq]
    rfl
  obtain ⟨o, hrun, hc, hmade⟩ :=
    generate_shownWith ["year"] hgrow (fun st => emitBody_leaf (argumentTypes_plain rfl st) rfl)
      rfl rfl
  refine ⟨rfl, by decide, o, hrun, _, hc, rfl, ⟨film, rfl, .inl rfl⟩, _, List.mem_cons_self, rfl,
    ?_⟩
  intro d hd _ hdeclares
  -- the model has been made for the first field
  rw [hmade] at hd
  obtain rfl := List.mem_singleton.mp hd
  obtain ⟨own, hown, hname⟩ := hdeclares
  obtain rfl := List.mem_singleton.mp hown
  exact absurd hname (by decide)

end ClientGen
