import ClientGen.Proofs.Calls.Names
import ClientGen.Proofs.DataTypes.Worklist
import Mathlib.Data.List.Perm.Basic

/-!
# Requests for data types

Data types are asked for by themselves: a type of the schema, or a name that a field or argument
refers to. What comes out is decided by the types that the requests lead to, along the fields that
are retained, the fields of inputs and the members of unions; their order and how often they are
made does not matter.

* `Reaches` says where the requests lead, from the schema and the configuration alone.
* `requested_types_emitted_once` is the property of all lists of requests.
-/

namespace ClientGen

open ClientGen.DataTypes

/-! ## Requests -/

/-- A request for data types, without a selection. -/
inductive TypeRequest where
  /-- The class of a type of the schema. -/
  | type (t : TypeDef)
  /-- The class that a name refers to, if there is one. -/
  | referenced (name : String)

namespace TypeRequest

/-- The request as a call on a context, for a package. -/
def call (package? : Option String) : TypeRequest → Call
  | type t => .dataType t none package?
  | referenced name => .referenced name package?

/-- The type that a request is for. A name counts only if a class for it belongs to the data
types. -/
def target? (ctx : Context) : TypeRequest → Option TypeDef
  | type t => ctx.schema.findType? t.name
  | referenced name =>
    if ctx.scope.isDataType name then ctx.schema.findType? name else none

/-- What a request puts on the stack. -/
def wanted (ctx : Context) : TypeRequest → List Wanted
  | type t => [⟨t.name, none⟩]
  | referenced name => ([name].filter ctx.scope.isDataType).map fun n => ⟨n, none⟩

end TypeRequest

/-- Where requests lead: to the types that they are for, from an object or interface type to the
types of the fields that are retained, from an input type to those of its fields, and from a union
to its members. A field counts only if a class for its type belongs to the data types. -/
inductive Reaches (ctx : Context) (requests : List TypeRequest) : TypeDef → Prop where
  | requested {request : TypeRequest} {t : TypeDef} (hrequest : request ∈ requests)
      (ht : request.target? ctx = some t) : Reaches ctx requests t
  | field {t u : TypeDef} {f : Field} (ht : Reaches ctx requests t)
      (hkind : t.kind = .object ∨ t.kind = .interface) (hf : f ∈ (ctx.choice t.name none).fields)
      (hdata : ctx.scope.isDataType f.typeName = true)
      (hu : ctx.schema.findType? f.typeName = some u) : Reaches ctx requests u
  | inputField {t u : TypeDef} {a : InputValue} (ht : Reaches ctx requests t)
      (hkind : t.kind = .input) (ha : a ∈ t.inputFields)
      (hdata : ctx.scope.isDataType a.typeName = true)
      (hu : ctx.schema.findType? a.typeName = some u) : Reaches ctx requests u
  | member {t u : TypeDef} (ht : Reaches ctx requests t) (hkind : t.kind = .union)
      (hu : u ∈ ctx.schema.unionMembers t.name) : Reaches ctx requests u

variable {ctx : Context} {package : String} {requests : List TypeRequest}

lemma Reaches.mono {others : List TypeRequest} {t : TypeDef} (h : ∀ q ∈ requests, q ∈ others)
    (ht : Reaches ctx requests t) : Reaches ctx others t := by
  induction ht with
  | requested hrequest ht => exact .requested (h _ hrequest) ht
  | field _ hkind hf hdata hu ih => exact .field ih hkind hf hdata hu
  | inputField _ hkind ha hdata hu ih => exact .inputField ih hkind ha hdata hu
  | member _ hkind hu ih => exact .member ih hkind hu

/-! ## References without a selection -/

lemma reaches_of_mem_references {t u : TypeDef} {w : Wanted} (ht : Reaches ctx requests t)
    (hw : w ∈ references ctx t none) (hu : ctx.schema.findType? w.typeName = some u) :
    Reaches ctx requests u := by
  unfold references describe at hw
  cases hkind : t.kind with
  | scalar | enum =>
    rw [hkind] at hw
    cases hw
  | object | interface =>
    rw [hkind] at hw
    obtain ⟨f, hf, rfl⟩ := List.mem_map.mp hw
    obtain ⟨hchosen, hdata⟩ := List.mem_filter.mp hf
    exact .field ht (by simp [hkind]) hchosen hdata hu
  | input =>
    rw [hkind] at hw
    obtain ⟨a, ha, rfl⟩ := List.mem_map.mp hw
    obtain ⟨hmem, hdata⟩ := List.mem_filter.mp ha
    exact .inputField ht hkind hmem hdata hu
  | union =>
    rw [hkind] at hw
    obtain ⟨m, hm, rfl⟩ := List.mem_map.mp hw
    have hfind := Schema.findType?_of_mem_unionMembers hm
    obtain rfl := Option.some.inj (hu.symm.trans hfind)
    exact .member ht hkind hm

/-! ## Stacks of requests -/

/-- The type that a request is for is found under its name, and it is put on the stack. -/
lemma wanted_of_target? {request : TypeRequest} {t : TypeDef}
    (h : request.target? ctx = some t) :
    ctx.schema.findType? t.name = some t ∧ ⟨t.name, none⟩ ∈ request.wanted ctx := by
  cases request with
  | type u =>
    have hfind : ctx.schema.findType? u.name = some t := h
    have hname := Schema.findType?_name hfind
    rw [← hname] at hfind
    exact ⟨hfind, by rw [hname]; exact List.mem_cons_self⟩
  | referenced name =>
    simp only [TypeRequest.target?, Option.ite_none_right_eq_some] at h
    obtain ⟨hdata, hfind⟩ := h
    have hmem : name ∈ [name].filter ctx.scope.isDataType :=
      List.mem_filter.mpr ⟨List.mem_cons_self, hdata⟩
    obtain rfl := Schema.findType?_name hfind
    exact ⟨hfind, List.mem_map_of_mem (f := fun n : String => (⟨n, none⟩ : Wanted)) hmem⟩

lemma target?_of_wanted {request : TypeRequest} {w : Wanted} {t : TypeDef}
    (hw : w ∈ request.wanted ctx) (ht : ctx.schema.findType? w.typeName = some t) :
    w.selection? = none ∧ request.target? ctx = some t := by
  cases request with
  | type u =>
    obtain rfl := List.mem_singleton.mp hw
    exact ⟨rfl, ht⟩
  | referenced name =>
    obtain ⟨n, hn, rfl⟩ := List.mem_map.mp hw
    obtain ⟨hmem, hdata⟩ := List.mem_filter.mp hn
    obtain rfl := List.mem_singleton.mp hmem
    refine ⟨rfl, ?_⟩
    simp only [TypeRequest.target?, Option.ite_none_right_eq_some]
    exact ⟨hdata, ht⟩

lemma selection?_of_wanted {request : TypeRequest} {w : Wanted} (hw : w ∈ request.wanted ctx) :
    w.selection? = none := by
  cases request with
  | type u =>
    obtain rfl := List.mem_singleton.mp hw
    rfl
  | referenced name =>
    obtain ⟨n, _, rfl⟩ := List.mem_map.mp hw
    rfl

/-- What the stack of some requests leads to is what the requests reach. -/
lemma reaches_of_asked {w : Wanted} (h : Asked ctx (requests.flatMap (·.wanted ctx)) w) :
    w.selection? = none
      ∧ ∀ t, ctx.schema.findType? w.typeName = some t → Reaches ctx requests t := by
  induction h with
  | first hw =>
    obtain ⟨request, hrequest, hw⟩ := List.mem_flatMap.mp hw
    refine ⟨selection?_of_wanted hw, fun t ht => ?_⟩
    exact .requested hrequest (target?_of_wanted hw ht).2
  | further _ ht hv ih =>
    obtain ⟨hnone, hreaches⟩ := ih
    rw [hnone] at hv
    exact ⟨selection?_of_mem_references hv, fun u hu =>
      reaches_of_mem_references (hreaches _ ht) hv hu⟩

/-! ## What is visited -/

section

variable {stack : List Wanted} {visits : List Visit} {o : Output} {r' : Naming.Registry}

/-- With no name given out before, a name that is given out stands for a visit. -/
lemma exists_visit (h : Trace ctx package stack {} visits o r') {t : TypeDef}
    (ht : ctx.schema.findType? t.name = some t) (hgiven : package ++ "." ++ t.name ∈ r'.names) :
    ∃ v ∈ visits, v.type = t := by
  rw [h.names, List.append_nil, List.mem_reverse] at hgiven
  obtain ⟨v, hv, hname⟩ := List.mem_map.mp hgiven
  have hsame : v.type.name = t.name := (String.append_right_inj _).mp hname
  have hknown := (h.known v hv).1
  rw [hsame, ht] at hknown
  exact ⟨v, hv, (Option.some.inj hknown).symm⟩

/-- What is settled, unless it is a scalar, has been visited without a selection. -/
lemma mem_visits_of_settled
    (h : Trace ctx package (requests.flatMap (·.wanted ctx)) {} visits o r') {w : Wanted}
    {t : TypeDef} (hsettled : Settled ctx package r' w)
    (ht : ctx.schema.findType? w.typeName = some t) (hkind : t.kind ≠ .scalar) :
    ⟨t, none⟩ ∈ visits := by
  have hself : ctx.schema.findType? t.name = some t := by
    rw [Schema.findType?_name ht]
    exact ht
  obtain ⟨v, hv, rfl⟩ := exists_visit h hself (hsettled t ht hkind)
  have hnone : v.selection? = none := (reaches_of_asked (h.asked v hv)).1
  rw [← hnone]
  exact hv

/-- Every type that requests reach is one of the schema and is visited, unless it is a scalar. -/
lemma mem_visits_of_reaches
    (h : Trace ctx package (requests.flatMap (·.wanted ctx)) {} visits o r') {t : TypeDef}
    (ht : Reaches ctx requests t) : t.kind ≠ .scalar → ⟨t, none⟩ ∈ visits := by
  -- from a type that is visited one gets on to what it refers to
  have hstep : ∀ {t u : TypeDef} {w : Wanted}, ⟨t, none⟩ ∈ visits → w ∈ references ctx t none →
      ctx.schema.findType? w.typeName = some u → u.kind ≠ .scalar → ⟨u, none⟩ ∈ visits := by
    intro t u w hvisited hw hu
    exact mem_visits_of_settled h (h.closed _ hvisited w hw) hu
  induction ht with
  | requested hrequest ht =>
    obtain ⟨hself, hw⟩ := wanted_of_target? ht
    have hsettled := h.settled _ (List.mem_flatMap.mpr ⟨_, hrequest, hw⟩)
    exact mem_visits_of_settled h hsettled hself
  | @field t u f _ hkind hf hdata hu ih =>
    have hscalar : t.kind ≠ .scalar := by
      rcases hkind with hkind | hkind <;> rw [hkind] <;> decide
    exact hstep (ih hscalar) (mem_references_of_field hkind hf hdata) hu
  | inputField _ hkind ha hdata hu ih =>
    have hvisited := ih (by rw [hkind]; decide)
    exact hstep hvisited (mem_references_of_inputField hkind ha hdata none) hu
  | member _ hkind hu ih =>
    have hvisited := ih (by rw [hkind]; decide)
    exact hstep hvisited (mem_references_of_member hkind hu none)
      (Schema.findType?_of_mem_unionMembers hu)

end

/-! ## What is emitted -/

/-- The types of visits that have a class. -/
def classTypes (visits : List Visit) : List TypeDef :=
  (visits.map (·.type)).filter (·.kind.hasClass)

/-- Visits without a selection make the classes of their types, in order. -/
lemma forall₂_isClass (visits : List Visit) (h : ∀ v ∈ visits, v.selection? = none) :
    List.Forall₂ (fun t => IsClass ctx package t none) (classTypes visits)
      (visits.flatMap fun v => (v.output ctx package).dataTypes) := by
  induction visits with
  | nil => exact .nil
  | cons v visits ih =>
    have hrest := ih fun u hu => h u (List.mem_cons_of_mem _ hu)
    have hnone : v.selection? = none := h v List.mem_cons_self
    unfold classTypes Visit.output at hrest ⊢
    rw [List.flatMap_cons, hnone, List.map_cons]
    by_cases hclass : v.type.kind.hasClass = true
    · obtain ⟨d, hd⟩ := exists_isClass ctx package hclass none
      rw [List.filter_cons, if_pos hclass, hd.described]
      exact .cons hd hrest
    · rw [List.filter_cons, if_neg hclass, dataTypes_describe_eq_nil (by simpa using hclass)]
      exact hrest

/-- The classes are a function of the types. -/
lemma eq_flatMap_of_forall₂ {types : List TypeDef} {classes : List DataClass}
    (h : List.Forall₂ (fun t => IsClass ctx package t none) types classes) :
    classes = types.flatMap fun t => (describe ctx package t none).output.dataTypes := by
  induction h with
  | nil => rfl
  | cons hd _ ih =>
    rw [List.flatMap_cons, hd.described, ← ih]
    rfl

/-! ## Requests on a fresh context -/

/-- What some requests for data types lead to, on a context on which nothing has been asked for. -/
def afterRequests (ctx : Context) (package? : Option String) (requests : List TypeRequest) :
    History :=
  History.after ctx (requests.map (·.call package?))

lemma run_call (hdata : ctx.config.dataTypes = true) (package? : Option String)
    (request : TypeRequest) (st : RunState) :
    (request.call package?).run ctx st
      = .ok (emit ctx (Call.packageOf ctx package?) (request.wanted ctx) st.registry).1
          { st with registry :=
              (emit ctx (Call.packageOf ctx package?) (request.wanted ctx) st.registry).2 } := by
  have hrun : ∀ stack, DataTypes.run ctx (Call.packageOf ctx package?) stack st
      = .ok (emit ctx (Call.packageOf ctx package?) stack st.registry).1
          { st with registry := (emit ctx (Call.packageOf ctx package?) stack st.registry).2 } := by
    intro stack
    unfold DataTypes.run
    rw [if_pos hdata]
  cases request with
  | type t => exact hrun _
  | referenced name => exact hrun _

/-- The requests, one after the other, make the visits of one worklist. -/
lemma exists_trace_afterRequests (hdata : ctx.config.dataTypes = true) (package? : Option String)
    (requests : List TypeRequest) :
    ∃ visits, Trace ctx (Call.packageOf ctx package?) (requests.flatMap (·.wanted ctx)) {} visits
        (afterRequests ctx package? requests).total
        (afterRequests ctx package? requests).state.registry
      ∧ (afterRequests ctx package? requests).failures = [] := by
  -- the last request goes on with the names that the others have left
  induction requests using List.reverseRecOn with
  | nil => exact ⟨[], .nothing {}, rfl⟩
  | append_singleton requests request ih =>
    obtain ⟨visits, htrace, hnone⟩ := ih
    obtain ⟨more, hmore⟩ := exists_trace ctx (Call.packageOf ctx package?) (request.wanted ctx)
      (afterRequests ctx package? requests).state.registry
    have hstep : afterRequests ctx package? (requests ++ [request])
        = (afterRequests ctx package? requests).step ctx (request.call package?) := by
      unfold afterRequests History.after
      rw [List.map_append, List.foldl_append]
      rfl
    unfold History.step at hstep
    rw [run_call hdata] at hstep
    rw [hstep, List.flatMap_append, List.flatMap_singleton]
    exact ⟨visits ++ more, htrace.append hmore, hnone⟩

lemma nodup_names_afterRequests (ctx : Context) (package? : Option String)
    (requests : List TypeRequest) :
    (afterRequests ctx package? requests).state.registry.names.Nodup :=
  (History.consistent_after ctx _).nodup

lemma mem_classTypes_iff {visits : List Visit} {o : Output} {r' : Naming.Registry}
    (h : Trace ctx package (requests.flatMap (·.wanted ctx)) {} visits o r') {t : TypeDef} :
    t ∈ classTypes visits ↔ Reaches ctx requests t ∧ t.kind.hasClass = true := by
  unfold classTypes
  rw [List.mem_filter]
  constructor
  · rintro ⟨hmem, hclass⟩
    obtain ⟨v, hv, rfl⟩ := List.mem_map.mp hmem
    exact ⟨(reaches_of_asked (h.asked v hv)).2 v.type (h.known v hv).1, hclass⟩
  · rintro ⟨hreaches, hclass⟩
    have hscalar : t.kind ≠ .scalar := by
      intro hscalar
      rw [hscalar] at hclass
      cases hclass
    exact ⟨List.mem_map_of_mem (f := Visit.type) (mem_visits_of_reaches h hreaches hscalar), hclass⟩

/-- The names of the types that have been visited are different, as they have been given out. -/
lemma nodup_classTypes {stack : List Wanted} {visits : List Visit} {o : Output}
    {r' : Naming.Registry} (h : Trace ctx package stack {} visits o r') (hnodup : r'.names.Nodup) :
    ((classTypes visits).map (·.name)).Nodup := by
  rw [h.names, List.append_nil, List.nodup_reverse] at hnodup
  have hnames : (visits.map fun v => package ++ "." ++ v.type.name)
      = ((visits.map (·.type)).map (·.name)).map fun name => package ++ "." ++ name := by
    rw [List.map_map, List.map_map]
    rfl
  rw [hnames] at hnodup
  exact (List.filter_sublist.map _).nodup hnodup.of_map

/-- Requests without a selection make a class for every object, interface, enum and input type that
they lead to, once, and nothing else. Neither their order nor how often they are made matters. -/
theorem requested_types_emitted_once (ctx : Context) (hdata : ctx.config.dataTypes = true)
    (package? : Option String) (requests : List TypeRequest) :
    let h := afterRequests ctx package? requests
    h.failures = [] ∧ h.total.queries = [] ∧ h.total.projections = []
      ∧ (∃ types : List TypeDef,
          (types.map (·.name)).Nodup
            ∧ (∀ t, t ∈ types ↔ Reaches ctx requests t ∧ t.kind.hasClass = true)
            ∧ List.Forall₂ (fun t => IsClass ctx (Call.packageOf ctx package?) t none) types
                h.total.dataTypes)
      ∧ ∀ others, (∀ q, q ∈ requests ↔ q ∈ others) →
          h.total.dataTypes.Perm (afterRequests ctx package? others).total.dataTypes := by
  intro h
  -- what comes out of any requests, as a function of the types that they lead to
  have hmakes : ∀ qs, ∃ types : List TypeDef, (types.map (·.name)).Nodup
      ∧ (∀ t, t ∈ types ↔ Reaches ctx qs t ∧ t.kind.hasClass = true)
      ∧ List.Forall₂ (fun t => IsClass ctx (Call.packageOf ctx package?) t none) types
          (afterRequests ctx package? qs).total.dataTypes := by
    intro qs
    obtain ⟨visits, htrace, _⟩ := exists_trace_afterRequests hdata package? qs
    refine ⟨classTypes visits, nodup_classTypes htrace (nodup_names_afterRequests ctx package? qs),
      fun t => mem_classTypes_iff htrace, ?_⟩
    rw [htrace.dataTypes]
    exact forall₂_isClass visits fun v hv => (reaches_of_asked (htrace.asked v hv)).1
  obtain ⟨visits, htrace, hnone⟩ := exists_trace_afterRequests hdata package? requests
  refine ⟨hnone, htrace.queries, htrace.projections, hmakes requests, fun others hsame => ?_⟩
  obtain ⟨types, hnodup, hmem, hclasses⟩ := hmakes requests
  obtain ⟨types', hnodup', hmem', hclasses'⟩ := hmakes others
  have htypes : types.Perm types' := by
    refine (List.perm_ext_iff_of_nodup hnodup.of_map hnodup'.of_map).mpr fun t => ?_
    rw [hmem, hmem']
    have hreaches : Reaches ctx requests t ↔ Reaches ctx others t :=
      ⟨fun ht => ht.mono fun q => (hsame q).mp, fun ht => ht.mono fun q => (hsame q).mpr⟩
    rw [hreaches]
  rw [eq_flatMap_of_forall₂ hclasses, eq_flatMap_of_forall₂ hclasses']
  exact htypes.flatMap_right _

/-- A union and one of its members, asked for in either order and once more, make the same
classes. -/
theorem requested_types_emitted_once_media :
    History.media.config.dataTypes = true
      ∧ (afterRequests History.media none [.referenced "Media", .referenced "Book"]).total.dataTypes.Perm
          (afterRequests History.media none
            [.referenced "Book", .referenced "Media", .referenced "Book"]).total.dataTypes := by
  refine ⟨rfl, ?_⟩
  have honce := requested_types_emitted_once History.media rfl none
    [.referenced "Media", .referenced "Book"]
  exact honce.2.2.2.2 _ (by simp [or_comm])

end ClientGen
