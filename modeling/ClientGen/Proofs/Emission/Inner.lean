import ClientGen.Proofs.Emission.Requested

/-!
# What stands below the first class of a tree

Below its first class a tree has classes of fields and fragments, which are named after their stems,
and data types, which are in packages of their own. So none of these takes the name of a query
class or of a root class, which end in other words.

* `HoldsOfParts.of_emits` is the induction over the walk, for any property that is kept when outputs
  are put together.
* `Output.Inner` is the property of inner outputs.
* `inner_emitTree` takes a tree apart: its first class, and what stands below.
* `Output.Inner.names` says which names may come out; `IsQueryName` and `IsRootName` are others.
-/

namespace ClientGen

open ClientGen.DataTypes ClientGen.Projection

variable {ctx : Context} {operation? : Option String}

/-! ## Properties of all that is brought -/

/-- A property that the parts of a walk have, and that is kept when they are put together. -/
structure HoldsOfParts (ctx : Context) (operation? : Option String) (P : Output → Prop) :
    Prop where
  empty : P ∅
  append : ∀ {a b : Output}, P a → P b → P (a ++ b)
  argumentTypes : ∀ {arguments : List InputValue} {types : Output} {st st' : RunState},
    Projection.argumentTypes ctx arguments st = .ok types st' → P types
  ownTypes : ∀ {head : Head} {own : Output} {st st' : RunState},
    Projection.ownTypes ctx operation? head st = .ok own st' → P own
  made : ∀ {plan : ClassPlan}, plan.base ≠ .root → (∃ stem, plan.name = classOfStem stem) →
    ∀ (head : Head) (members : Members),
      P { projections := [plan.made ctx head members], warnings := head.warnings }

namespace HoldsOfParts

variable {P : Output → Prop} (h : HoldsOfParts ctx operation? P)

include h

/-- A class of a field or a fragment, with all that comes with it. -/
lemma output {plan : ClassPlan} {head : Head} {members : Members} {own : Output}
    (hbase : plan.base ≠ .root) (hname : ∃ stem, plan.name = classOfStem stem)
    (hbelow : P members.below) (hown : P own) (harguments : P members.arguments) :
    P (plan.output ctx head members own) :=
  h.append (h.append (h.append (h.made hbase hname head members) hbelow) hown) harguments

/-- What the members of a class bring has the property. -/
theorem of_emits {frame : Frame} {taken : List String} {body : Body} {members : Members}
    {st st' : RunState} (hemits : Emits ctx operation? frame taken body st members st') :
    P members.below ∧ P members.arguments := by
  induction hemits with
  | done => exact ⟨h.empty, h.empty⟩
  | leaf harguments _ ih =>
    exact ⟨h.append h.empty ih.1, h.append (h.argumentTypes harguments) ih.2⟩
  | branch harguments _ _ _ hown _ ihBelow ihRest =>
    refine ⟨h.append ?_ ihRest.1, h.append (h.argumentTypes harguments) ihRest.2⟩
    exact h.output (fun hbase => by cases hbase) ⟨_, rfl⟩ ihBelow.1 (h.ownTypes hown) ihBelow.2
  | fragment _ _ _ hown _ ihBelow ihRest =>
    refine ⟨h.append ?_ ihRest.1, h.append h.empty ihRest.2⟩
    exact h.output (fun hbase => by cases hbase) ⟨_, rfl⟩ ihBelow.1 (h.ownTypes hown) ihBelow.2

end HoldsOfParts

/-! ## Packages apart from that of the client -/

/-- The data types are in other packages than the classes of the client. -/
structure Context.TypesApart (ctx : Context) : Prop where
  shared : ctx.config.typesNamespace ≠ ctx.config.clientNamespace
  examples : ∀ kind e, ctx.example? kind = some e →
    operationPackage ctx.config e.name? ≠ ctx.config.clientNamespace

/-- Data types are asked for in other packages than that of the client. -/
def Away (ctx : Context) (package : String) (_ : Wanted) : Prop :=
  package ≠ ctx.config.clientNamespace

lemma hereditary_away (ctx : Context) : Hereditary ctx (Away ctx) :=
  fun _ _ _ _ hw _ _ => hw

namespace Context.TypesApart

/-- The package of the example that a walk follows is another one than that of the client. -/
lemma operation (h : ctx.TypesApart) (kind : Document.OperationKind) :
    operationPackage ctx.config ((ctx.example? kind).bind (·.name?))
      ≠ ctx.config.clientNamespace := by
  cases hexample : ctx.example? kind with
  | none => exact h.shared
  | some e => exact h.examples kind e hexample

end Context.TypesApart

/-! ## Inner classes -/

/-- A class of a field or a fragment, named after its stem. -/
structure ProjectionClass.IsInner (ctx : Context) (c : ProjectionClass) : Prop where
  package : c.package = ctx.config.clientNamespace
  base : c.base ≠ .root
  name : ∃ stem, c.name = classOfStem stem

/-- There are only classes of fields and fragments, and data types in packages of their own. -/
structure Output.Inner (ctx : Context) (o : Output) : Prop where
  queries : o.queries = []
  projections : ∀ c ∈ o.projections, c.IsInner ctx
  types : o.Requested ctx (Away ctx)

namespace Output.Inner

variable {a b : Output}

lemma empty : Inner ctx ∅ := ⟨rfl, fun _ hc => absurd hc List.not_mem_nil, .empty⟩

lemma append (ha : a.Inner ctx) (hb : b.Inner ctx) : (a ++ b).Inner ctx where
  queries := by
    show a.queries ++ b.queries = []
    rw [ha.queries, hb.queries]
    rfl
  projections := fun c hc => (List.mem_append.mp hc).elim (ha.projections c) (hb.projections c)
  types := ha.types.append hb.types

end Output.Inner

/-- Data types come without other classes. -/
lemma inner_of_run {package : String} {stack : List Wanted} {o : Output} {st st' : RunState}
    (hpackage : package ≠ ctx.config.clientNamespace)
    (h : DataTypes.run ctx package stack st = .ok o st') : o.Inner ctx ∧ o.projections = [] := by
  have htypes := requested_of_run (hereditary_away ctx) (fun _ _ => hpackage) h
  unfold DataTypes.run at h
  split at h
  · cases h
    obtain ⟨visits, htrace⟩ := exists_trace ctx package stack st.registry
    refine ⟨⟨htrace.queries, fun c hc => ?_, htypes⟩, htrace.projections⟩
    rw [htrace.projections] at hc
    cases hc
  · cases h
    exact ⟨.empty, rfl⟩

namespace Projection

variable {st st' : RunState}

lemma inner_of_argumentTypes (h : ctx.TypesApart) {arguments : List InputValue} {types : Output}
    (hrun : argumentTypes ctx arguments st = .ok types st') : types.Inner ctx :=
  (inner_of_run h.shared hrun).1

lemma inner_of_ownTypes
    (hpackage : operationPackage ctx.config operation? ≠ ctx.config.clientNamespace) {head : Head}
    {own : Output} (h : ownTypes ctx operation? head st = .ok own st') : own.Inner ctx := by
  rcases ownTypes_cases h with hrun | ⟨rfl, _⟩
  · exact (inner_of_run hpackage hrun).1
  · exact .empty

lemma holdsOfParts_inner (h : ctx.TypesApart)
    (hpackage : operationPackage ctx.config operation? ≠ ctx.config.clientNamespace) :
    HoldsOfParts ctx operation? (Output.Inner ctx) where
  empty := .empty
  append := .append
  argumentTypes := inner_of_argumentTypes h
  ownTypes := inner_of_ownTypes hpackage
  made := fun hbase hname head members => by
    refine ⟨rfl, fun c hc => ?_, .of_none rfl rfl⟩
    obtain rfl := List.mem_singleton.mp hc
    exact ⟨rfl, hbase, hname⟩

/-- A tree is passed over if the name of its first class is given out. Otherwise it is that class
with what stands below. -/
theorem inner_emitTree (h : ctx.TypesApart)
    (hpackage : operationPackage ctx.config operation? ≠ ctx.config.clientNamespace)
    {plan : ClassPlan} {t : TypeDef} {selection? : Option Selection} {o : Output}
    (hrun : emitTree ctx operation? plan t selection? st = .ok o st') :
    clientName ctx plan.name ∈ st.registry.names ∧ o = ∅ ∧ st' = st
      ∨ clientName ctx plan.name ∉ st.registry.names
        ∧ ∃ members below, below.Inner ctx
          ∧ o = { projections := [plan.made ctx (headAt ctx t selection?) members]
                  warnings := (headAt ctx t selection?).warnings } ++ below := by
  rcases emitTree_cases hrun with hgiven | hmade
  · exact .inl hgiven
  · obtain ⟨stem, ready, members, filled, own, hopens, hemits, hown, rfl⟩ := hmade
    obtain ⟨hbelow, harguments⟩ := (holdsOfParts_inner h hpackage).of_emits hemits
    refine .inr ⟨hopens.free, members, members.below ++ own ++ members.arguments, ?_, ?_⟩
    · exact (hbelow.append (inner_of_ownTypes hpackage hown)).append harguments
    · unfold ClassPlan.output
      rw [Output.append_assoc, Output.append_assoc, Output.append_assoc]

end Projection

/-! ## Names -/

/-- Texts that end in different characters are different, whatever comes before. -/
private lemma append_ne_append {s s' t t' : String} (c c' : Char)
    (h : t.toList.getLast? = some c) (h' : t'.toList.getLast? = some c') (hne : c ≠ c') :
    s ++ t ≠ s' ++ t' := by
  intro hsame
  have hlast : (s ++ t).toList.getLast? = some c := by
    rw [String.toList_append, List.getLast?_append, h, Option.some_or]
  have hlast' : (s' ++ t').toList.getLast? = some c' := by
    rw [String.toList_append, List.getLast?_append, h', Option.some_or]
  rw [hsame, hlast'] at hlast
  exact hne (Option.some.inj hlast).symm

/-- No query class is named after a stem. -/
lemma queryName_ne_classOfStem (field stem : String) : queryName field ≠ classOfStem stem :=
  append_ne_append 'y' 'n' (by decide) (by decide) (by decide)

/-- No root class is named after a stem. -/
lemma rootPlan_name_ne_classOfStem (field stem : String) :
    (rootPlan field).name ≠ classOfStem stem :=
  append_ne_append 't' 'n' (by decide) (by decide) (by decide)

/-- Query classes and root classes have different names. -/
lemma queryName_ne_rootPlan_name (field other : String) :
    queryName field ≠ (rootPlan other).name :=
  append_ne_append 'y' 't' (by decide) (by decide) (by decide)

namespace Output

variable {o : Output} {n : String}

/-- A name of an output is that of a class or of a union. -/
lemma mem_names_cases (h : n ∈ o.names) :
    (∃ q ∈ o.queries, n = q.package ++ "." ++ q.name)
      ∨ (∃ c ∈ o.projections, n = c.package ++ "." ++ c.name)
      ∨ (∃ d ∈ o.dataTypes, n = d.package ++ "." ++ d.name)
      ∨ ∃ u ∈ o.unions, n = u.package ++ "." ++ u.name := by
  rcases List.mem_append.mp h with h | h
  · obtain ⟨c, hc, rfl⟩ := List.mem_map.mp h
    rcases List.mem_append.mp hc with hc | hc
    · rcases List.mem_append.mp hc with hc | hc
      · obtain ⟨q, hq, rfl⟩ := List.mem_map.mp hc
        exact .inl ⟨q, hq, rfl⟩
      · obtain ⟨p, hp, rfl⟩ := List.mem_map.mp hc
        exact .inr (.inl ⟨p, hp, rfl⟩)
    · obtain ⟨d, hd, rfl⟩ := List.mem_map.mp hc
      exact .inr (.inr (.inl ⟨d, hd, rfl⟩))
  · obtain ⟨u, hu, rfl⟩ := List.mem_map.mp h
    exact .inr (.inr (.inr ⟨u, hu, rfl⟩))

/-- The names of data types that are asked for in other packages than that of the client. -/
lemma Requested.names_away (hnames : ctx.schema.Dotless) (h : o.Requested ctx (Away ctx))
    (hn : (∃ d ∈ o.dataTypes, n = d.package ++ "." ++ d.name)
      ∨ ∃ u ∈ o.unions, n = u.package ++ "." ++ u.name) :
    ∃ package name, package ≠ ctx.config.clientNamespace ∧ Dotless name
      ∧ n = package ++ "." ++ name := by
  have hdotless : ∀ {name : String} {t : TypeDef}, ctx.schema.findType? name = some t →
      Dotless name := by
    intro name t ht
    rw [← Schema.findType?_name ht]
    exact hnames.type (Schema.findType?_mem ht)
  rcases hn with ⟨d, hd, rfl⟩ | ⟨u, hu, rfl⟩
  · obtain ⟨t, _, hfound, _, haway⟩ := h.dataTypes d hd
    exact ⟨d.package, d.name, haway, hdotless hfound, rfl⟩
  · obtain ⟨t, _, hfound, haway⟩ := h.unions u hu
    exact ⟨u.package, u.name, haway, hdotless hfound, rfl⟩

/-- What is inner is named after a stem, or is in a package apart from that of the client. Only
projections are named after stems. -/
theorem Inner.names (hnames : ctx.schema.Dotless) (h : o.Inner ctx) (hn : n ∈ o.names) :
    (o.projections ≠ [] ∧ ∃ stem, n = clientName ctx (classOfStem stem))
      ∨ ∃ package name, package ≠ ctx.config.clientNamespace ∧ Dotless name
          ∧ n = package ++ "." ++ name := by
  rcases mem_names_cases hn with ⟨q, hq, rfl⟩ | ⟨c, hc, rfl⟩ | htypes
  · rw [h.queries] at hq
    cases hq
  · obtain ⟨hpackage, _, stem, hname⟩ := h.projections c hc
    exact .inl ⟨List.ne_nil_of_mem hc, stem, by rw [hpackage, hname]; rfl⟩
  · exact .inr (h.types.names_away hnames htypes)

end Output

/-! ## Names of root fields -/

/-- The qualified name of a query class. -/
def IsQueryName (ctx : Context) (n : String) : Prop :=
  ∃ field, Dotless field ∧ n = clientName ctx (queryName field)

/-- The qualified name of a root class. -/
def IsRootName (ctx : Context) (n : String) : Prop :=
  ∃ field, Dotless field ∧ n = clientName ctx (rootPlan field).name

lemma dotless_queryName {field : String} (h : Dotless field) : Dotless (queryName field) :=
  h.capitalized.append (by decide)

lemma dotless_rootPlan_name {field : String} (h : Dotless field) :
    Dotless (rootPlan field).name :=
  h.capitalized.append (by decide)

namespace Output.Inner

variable {o : Output} {n : String}

/-- No query class has the name of something inner. -/
lemma not_isQueryName (hnames : ctx.schema.Dotless) (h : o.Inner ctx) (hquery : IsQueryName ctx n) :
    n ∉ o.names := by
  intro hn
  obtain ⟨field, hdotless, rfl⟩ := hquery
  rcases h.names hnames hn with ⟨_, stem, hsame⟩ | ⟨package, name, haway, hname, hsame⟩
  · exact queryName_ne_classOfStem field stem (clientName_injective ctx hsame)
  · exact haway (eq_of_qualified (dotless_queryName hdotless) hname hsame).1.symm

/-- No root class has the name of something inner. -/
lemma not_isRootName (hnames : ctx.schema.Dotless) (h : o.Inner ctx) (hroot : IsRootName ctx n) :
    n ∉ o.names := by
  intro hn
  obtain ⟨field, hdotless, rfl⟩ := hroot
  rcases h.names hnames hn with ⟨_, stem, hsame⟩ | ⟨package, name, haway, hname, hsame⟩
  · exact rootPlan_name_ne_classOfStem field stem (clientName_injective ctx hsame)
  · exact haway (eq_of_qualified (dotless_rootPlan_name hdotless) hname hsame).1.symm

end Output.Inner

end ClientGen
