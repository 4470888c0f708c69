import ClientGen.Proofs.Emission.Below
import ClientGen.Proofs.Generation.Methods

/-!
# Fragments on entity types

The federation root has a method for each entity type, which returns the fragment on that type. The
class of the fragment is named after the type alone, and nothing is done where that name is given
out already. So the method finds its class exactly if the name is still free when the turn of the
type comes.

* `Output.ServesEntities` says that all methods find their classes.
* `servesEntities_iff` is the condition.
-/

namespace ClientGen

open ClientGen.Projection

/-! ## What the federation root promises -/

/-- The class is the fragment on an entity type below a root. -/
structure ProjectionClass.IsKeyOf (root : ProjectionClass) (type : String) (d : ProjectionClass) :
    Prop where
  base : d.base = .fragment
  schemaType : d.schemaType = type
  parent : d.parent? = some root.name
  root : d.root? = some root.name
  typename : d.includeTypename = false

/-- There is a root for the union of all entities. It has one method for each of the types, in
order, and each method returns the fragment on its type. -/
def Output.ServesEntities (o : Output) (ts : List TypeDef) : Prop :=
  ∃ root ∈ o.projections, root.base = .root ∧ root.schemaType = entityUnion
    ∧ root.methods.map (·.action) = ts.map (fun t => .narrow t.name .itself)
    ∧ (root.methods.map (·.name)).Nodup
    ∧ ∀ m ∈ root.methods, ∀ type access, m.action = .narrow type access →
        ∃ d, o.projections.filter (·.name = m.returns) = [d] ∧ root.IsKeyOf type d

variable {ctx : Context} {taken : List String} {ts earlier later : List TypeDef} {t : TypeDef}
  {methods : List Method} {o : Output} {st st' : RunState}

/-- A fragment that does not ask for the name of its type stands below no class of a tree. -/
lemma ProjectionClass.IsKeyOf.not_standsBelow {root d : ProjectionClass} {type : String}
    (h : root.IsKeyOf type d) : ¬ d.StandsBelow := by
  intro hbelow
  rcases hbelow.kind with hbase | ⟨_, htypename⟩
  · rw [h.base] at hbase
    cases hbase
  · rw [h.typename] at htypename
    cases htypename

/-! ## One type after the other -/

/-- The methods have different names. -/
lemma names_of_emitEntityFragments
    (h : emitEntityFragments ctx taken ts st = .ok (methods, o) st') :
    (methods.map (·.name)).Nodup ∧ ∀ m ∈ methods, m.name ∉ taken := by
  induction ts generalizing taken methods st o with
  | nil =>
    obtain ⟨rfl, _⟩ := emitEntityFragments_nil h
    exact ⟨List.nodup_nil, fun _ hm => absurd hm List.not_mem_nil⟩
  | cons t ts ih =>
    obtain ⟨made, grown, others, more, _, hmore, rfl, _⟩ := emitEntityFragments_cons h
    obtain ⟨hnodup, hfree⟩ := ih hmore
    have hfirst : Naming.fragmentMethodName taken t.name ∉ taken :=
      Naming.firstFree_not_mem Function.injective_id taken ("on_" ++ Naming.snakeCase t.name)
    constructor
    · refine List.nodup_cons.mpr ⟨fun hsame => ?_, hnodup⟩
      obtain ⟨m, hm, hname⟩ := List.mem_map.mp hsame
      exact hfree m hm (hname ▸ List.mem_cons_self)
    · intro m hm
      rcases List.mem_cons.mp hm with rfl | hm
      · exact hfirst
      · exact fun hmem => hfree m hm (List.mem_cons_of_mem _ hmem)

/-- What is made for some types and then for others is made for all of them. -/
lemma emitEntityFragments_append {more : List TypeDef}
    (h : emitEntityFragments ctx taken (ts ++ more) st = .ok (methods, o) st') :
    ∃ first made mid taken' rest others,
      emitEntityFragments ctx taken ts st = .ok (first, made) mid
        ∧ emitEntityFragments ctx taken' more mid = .ok (rest, others) st'
        ∧ o = made ++ others := by
  induction ts generalizing taken methods st o with
  | nil => exact ⟨[], ∅, st, taken, methods, o, rfl, h, rfl⟩
  | cons t ts ih =>
    obtain ⟨made, grown, others, output, hmade, hmore, _, rfl⟩ := emitEntityFragments_cons h
    obtain ⟨first, below, mid, taken', rest, last, hfirst, hrest, rfl⟩ := ih hmore
    refine ⟨keyMethod (Naming.fragmentMethodName taken t.name) t.name :: first, made ++ below, mid,
      taken', rest, last, ?_, hrest, (Output.append_assoc ..).symm⟩
    unfold emitEntityFragments
    refine Run.bind_eq_ok.mpr ⟨made, grown, hmade, ?_⟩
    exact Run.bind_eq_ok.mpr ⟨(first, below), mid, hfirst, rfl⟩

/-- A type whose class is free has its fragment. -/
lemma exists_key_of_free (h : emitTree ctx none (keyPlan t.name) t none st = .ok o st')
    (hfree : clientName ctx (keyPlan t.name).name ∉ st.registry.names) (ms : List Method) :
    ∃ d ∈ o.projections, d.name = (keyPlan t.name).name
      ∧ (entitiesClass ctx ms).IsKeyOf t.name d := by
  rcases projections_of_emitTree h with ⟨hgiven, _⟩ | ⟨_, members, hall, _⟩
  · exact absurd hgiven hfree
  · rw [hall]
    exact ⟨_, List.mem_cons_self, rfl, rfl, rfl, rfl, rfl, rfl⟩

/-- The classes of entity types are the fragments on them and what stands below these. -/
lemma cases_of_emitEntityFragments
    (h : emitEntityFragments ctx taken ts st = .ok (methods, o) st') {d : ProjectionClass}
    (hd : d ∈ o.projections) :
    d.StandsBelow ∨ d.base = .fragment
      ∧ ∃ t ∈ ts, d.schemaType = t.name ∧ d.name = (keyPlan t.name).name := by
  obtain ⟨t, ht, tree, first, last, htree, hmem, _⟩ := inKeyTree_of_emitEntityFragments h d hd
  rcases projections_of_emitTree htree with ⟨_, rfl, _⟩ | ⟨_, members, hall, hbelow⟩
  · cases hmem
  · rw [hall] at hmem
    rcases List.mem_cons.mp hmem with rfl | hmem
    · exact .inr ⟨rfl, t, ht, rfl, rfl⟩
    · exact .inl (hbelow d hmem)

/-- A fragment on an entity type has been made for a type of that name. -/
lemma exists_type_of_key (h : emitEntityFragments ctx taken ts st = .ok (methods, o) st')
    {root d : ProjectionClass} {type : String} (hd : d ∈ o.projections)
    (hkey : root.IsKeyOf type d) : type ∈ ts.map (·.name) := by
  rcases cases_of_emitEntityFragments h hd with hbelow | ⟨_, t, ht, htype, _⟩
  · exact absurd hbelow hkey.not_standsBelow
  · exact List.mem_map.mpr ⟨t, ht, htype.symm.trans hkey.schemaType⟩

/-- What has been given out before is no name of what comes out. -/
lemma name_not_mem_of_given (h : emitEntityFragments ctx taken ts st = .ok (methods, o) st')
    (hnodup : st.registry.names.Nodup) {d : ProjectionClass} (hd : d ∈ o.projections) :
    clientName ctx d.name ∉ st.registry.names := by
  have hsound := sound_emitEntityFragments h
  have hgrows := (tame_emitEntityFragments ctx taken ts).grows_of_ok h
  have hname : (GeneratedClass.projection d).qualifiedName = clientName ctx d.name := by
    show d.package ++ "." ++ d.name = ctx.config.clientNamespace ++ "." ++ d.name
    rw [(hsound.belongs.classes d hd).package]
  have hmade : 0 < o.names.count (clientName ctx d.name) :=
    List.count_pos_iff.mpr (hname ▸ mem_names_of_mem_projections hd)
  intro hgiven
  have hbefore := List.count_pos_iff.mpr hgiven
  have honce := List.nodup_iff_count_le_one.mp (hgrows.nodup hnodup) (clientName ctx d.name)
  have haccount := hsound.accounts (clientName ctx d.name)
  omega

/-! ## The condition -/

/-- The turn of a type comes after those of the types before it. -/
lemma exists_turn
    (h : emitEntityFragments ctx taken (earlier ++ t :: later) st = .ok (methods, o) st') :
    ∃ first before mid made grown taken' rest after,
      emitEntityFragments ctx taken earlier st = .ok (first, before) mid
        ∧ emitTree ctx none (keyPlan t.name) t none mid = .ok made grown
        ∧ emitEntityFragments ctx taken' later grown = .ok (rest, after) st'
        ∧ o = before ++ (made ++ after) := by
  obtain ⟨first, before, mid, taken', _, others, hfirst, hrest, rfl⟩ :=
    emitEntityFragments_append h
  obtain ⟨made, grown, rest, after, hmade, hafter, _, rfl⟩ := emitEntityFragments_cons hrest
  exact ⟨first, before, mid, made, grown, _, rest, after, hfirst, hmade, hafter, rfl⟩

/-- The first of some types with a given name. -/
lemma exists_first_named {name : String} (h : name ∈ ts.map (·.name)) :
    ∃ earlier t later, ts = earlier ++ t :: later ∧ t.name = name
      ∧ name ∉ earlier.map (·.name) := by
  obtain ⟨u, hu, hname⟩ := List.mem_map.mp h
  have hfound : (ts.find? (·.name = name)).isSome := by
    rw [List.find?_isSome]
    exact ⟨u, hu, decide_eq_true hname⟩
  obtain ⟨t, ht⟩ := Option.isSome_iff_exists.mp hfound
  obtain ⟨hsame, earlier, later, rfl, hfirst⟩ := List.find?_eq_some_iff_append.mp ht
  refine ⟨earlier, t, later, rfl, of_decide_eq_true hsame, fun hmem => ?_⟩
  obtain ⟨v, hv, hsame⟩ := List.mem_map.mp hmem
  have hnot := hfirst v hv
  simp [hsame] at hnot

/-- The federation root with what stands below it. -/
def Output.underEntities (ctx : Context) (methods : List Method) (o : Output) : Output :=
  { projections := [entitiesClass ctx methods] } ++ o

lemma mem_underEntities {d : ProjectionClass} :
    d ∈ (o.underEntities ctx methods).projections
      ↔ d = entitiesClass ctx methods ∨ d ∈ o.projections :=
  List.mem_cons

/-- The class that a method of the federation root returns is named after its type. -/
lemma returns_of_narrow (h : emitEntityFragments ctx taken ts st = .ok (methods, o) st')
    {m : Method} (hm : m ∈ methods) {type : String} {access : RootAccess}
    (haction : m.action = .narrow type access) :
    type ∈ ts.map (·.name) ∧ m.returns = (keyPlan type).name := by
  have hpair : (m.returns, m.action)
      ∈ ts.map fun t => ((keyPlan t.name).name, MethodAction.narrow t.name .itself) := by
    rw [← methods_of_emitEntityFragments h]
    exact List.mem_map_of_mem hm
  obtain ⟨t, ht, hsame⟩ := List.mem_map.mp hpair
  obtain ⟨hreturns, hnarrow⟩ := Prod.mk.inj hsame
  rw [haction] at hnarrow
  obtain ⟨rfl, _⟩ := MethodAction.narrow.inj hnarrow
  exact ⟨List.mem_map_of_mem ht, hreturns.symm⟩

/-- The only root is the federation root. -/
lemma eq_entitiesClass_of_root
    (h : emitEntityFragments ctx taken ts st = .ok (methods, o) st') {root : ProjectionClass}
    (hroot : root ∈ (o.underEntities ctx methods).projections) (hbase : root.base = .root) :
    root = entitiesClass ctx methods := by
  refine (mem_underEntities.mp hroot).resolve_right fun hmem => ?_
  rcases cases_of_emitEntityFragments h hmem with hbelow | ⟨hfragment, _⟩
  · exact hbelow.base_ne_root hbase
  · rw [hbase] at hfragment
    cases hfragment

/-- The methods of the federation root find their classes exactly if the name of each class is free
when the turn of the first type comes that needs it. -/
theorem servesEntities_iff
    (h : emitEntityFragments ctx Naming.projectionNames ts st = .ok (methods, o) st')
    (hnodup : st.registry.names.Nodup)
    (hnames : ((o.underEntities ctx methods).projections.map (·.name)).Nodup) :
    (o.underEntities ctx methods).ServesEntities ts
      ↔ ∀ earlier t later, ts = earlier ++ t :: later → t.name ∉ earlier.map (·.name) →
          ∀ first before mid,
            emitEntityFragments ctx Naming.projectionNames earlier st = .ok (first, before) mid →
              clientName ctx (keyPlan t.name).name ∉ mid.registry.names := by
  constructor
  · rintro ⟨root, hroot, hbase, _, hactions, _, hreturned⟩ earlier t later rfl hnew first before mid
      hfirst hgiven
    -- the method for the type finds the fragment on it
    have haction : MethodAction.narrow t.name .itself ∈ root.methods.map (·.action) := by
      rw [hactions]
      exact List.mem_map_of_mem (List.mem_append_right _ List.mem_cons_self)
    obtain ⟨m, hm, hnarrow⟩ := List.mem_map.mp haction
    obtain ⟨d, hunique, hkey⟩ := hreturned m hm t.name .itself hnarrow
    obtain ⟨hd, hname⟩ := List.mem_filter.mp (hunique ▸ List.mem_singleton.mpr rfl : d ∈ _)
    obtain rfl := eq_entitiesClass_of_root h hroot hbase
    rw [(returns_of_narrow h hm hnarrow).2] at hname
    have hd : d ∈ o.projections := (mem_underEntities.mp hd).resolve_left fun hsame => by
      rw [hsame] at hkey
      cases hkey.base
    -- its name is given out, so it has not come out when it was the turn of the type
    obtain ⟨first', before', mid', made, grown, taken', rest, after, hfirst', hmade, hafter, rfl⟩ :=
      exists_turn h
    obtain ⟨⟨rfl, rfl⟩, rfl⟩ : (first' = first ∧ before' = before) ∧ mid' = mid := by
      rw [hfirst] at hfirst'
      cases hfirst'
      exact ⟨⟨rfl, rfl⟩, rfl⟩
    rcases projections_of_emitTree hmade with ⟨_, rfl, rfl⟩ | ⟨hfree, _⟩
    · rcases List.mem_append.mp hd with hd | hd
      · exact hnew (exists_type_of_key hfirst hd hkey)
      · have hfirstNodup := (tame_emitEntityFragments ctx _ _).grows_of_ok hfirst
        refine name_not_mem_of_given hafter (hfirstNodup.nodup hnodup) hd ?_
        rw [of_decide_eq_true hname]
        exact hgiven
    · exact hfree hgiven
  · intro hfree
    refine ⟨entitiesClass ctx methods, List.mem_cons_self, rfl, rfl, ?_,
      (names_of_emitEntityFragments h).1, ?_⟩
    · have hpairs := congrArg (List.map Prod.snd) (methods_of_emitEntityFragments h)
      rw [List.map_map, List.map_map] at hpairs
      exact hpairs
    · intro m hm type access haction
      obtain ⟨htype, hreturns⟩ := returns_of_narrow h hm haction
      obtain ⟨earlier, t, later, rfl, rfl, hnew⟩ := exists_first_named htype
      obtain ⟨first, before, mid, made, grown, taken', rest, after, hfirst, hmade, _, rfl⟩ :=
        exists_turn h
      have hturn := hfree earlier t later rfl hnew first before mid hfirst
      obtain ⟨d, hd, hname, hkey⟩ := exists_key_of_free hmade hturn methods
      have hmem : d ∈ ((before ++ (made ++ after)).underEntities ctx methods).projections :=
        mem_underEntities.mpr (.inr (List.mem_append_right _ (List.mem_append_left _ hd)))
      refine ⟨d, ?_, hkey⟩
      rw [hreturns, ← hname]
      exact filter_eq_singleton hnames hmem

end ClientGen
