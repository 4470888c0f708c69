import ClientGen.Proofs.Calls.Ending
import ClientGen.Proofs.Emission.Sound

/-!
# Names over many calls

What any calls on one context leave behind, in any order and whether they succeed or not. A call
that succeeds adds its classes and registers their names. A call that fails because of the schema
has registered nothing; one that meets fragments without an end never comes back, and by then it
has given out names that nothing stands for.

* `History.Consistent` is the invariant, and `consistent_step` says that one call keeps it.
* `names_registered_exactly` is what it comes to for the names.
-/

namespace ClientGen

open ClientGen.Projection

/-! ## The invariant -/

/-- What is kept from call to call. The account of names is exact as long as all calls come
back. -/
structure History.Consistent (ctx : Context) (h : History) : Prop where
  nodup : h.state.registry.names.Nodup
  registered : ∀ n, h.total.names.count n ≤ h.state.registry.names.count n
  exact : .endlessFragments ∉ h.failures →
    ∀ n, h.total.names.count n = h.state.registry.names.count n
  belongs : h.total.Belongs ctx
  links : ∀ l, (arrivals h.total.projections).count l = (calls ctx h.total.projections).count l

namespace History

variable {ctx : Context} {h : History}

lemma consistent_start (ctx : Context) : Consistent ctx {} where
  nodup := List.nodup_nil
  registered := fun _ => Nat.le_refl _
  exact := fun _ _ => rfl
  belongs := .empty ctx
  links := fun _ => rfl

private lemma consistent_ok {c : Call} {o : Output} {st' : RunState} (hh : h.Consistent ctx)
    (hrun : c.run ctx h.state = .ok o st') (hgrows : h.state.registry.Grows st'.registry) :
    Consistent ctx { h with state := st', total := h.total ++ o } := by
  have hsound := Call.sound hrun
  constructor
  · exact hgrows.nodup hh.nodup
  · intro n
    -- the call adds to both sides what it has brought
    have hbefore := hh.registered n
    have hcall := hsound.accounts n
    rw [Output.count_names_append]
    show _ ≤ st'.registry.names.count n
    omega
  · intro hreturned n
    have hbefore := hh.exact hreturned n
    have hcall := hsound.accounts n
    rw [Output.count_names_append]
    show _ = st'.registry.names.count n
    omega
  · exact hh.belongs.append hsound.belongs
  · intro l
    have hbefore := hh.links l
    have hcall := hsound.links l
    rw [Output.projections_append, arrivals_append, calls_append, List.count_append,
      List.count_append]
    omega

private lemma consistent_error {c : Call} {e : RunError} {st' : RunState}
    (hh : h.Consistent ctx) (hrun : c.run ctx h.state = .error e st')
    (hgrows : h.state.registry.Grows st'.registry) :
    Consistent ctx { h with state := st', failures := h.failures ++ [e] } := by
  refine ⟨hgrows.nodup hh.nodup, ?_, ?_, hh.belongs, hh.links⟩
  · intro n
    have hkept := hgrows.keeps.sublist.count_le n
    exact (hh.registered n).trans hkept
  · intro hreturned n
    obtain ⟨hbefore, hnow⟩ := not_or.mp (fun hor => hreturned (List.mem_append.mpr hor))
    cases e with
    | endlessFragments => exact (hnow (List.mem_singleton.mpr rfl)).elim
    | schema e =>
      -- the schema is looked at before any name is given out
      have hsame := Call.state_of_schemaError hrun
      show _ = st'.registry.names.count n
      rw [hsame]
      exact hh.exact hbefore n

lemma step_of_ok {c : Call} {made : Output} {st' : RunState}
    (hrun : c.run ctx h.state = .ok made st') :
    h.step ctx c = { h with state := st', total := h.total ++ made } := by
  unfold step
  rw [hrun]

lemma step_of_error {c : Call} {e : RunError} {st' : RunState}
    (hrun : c.run ctx h.state = .error e st') :
    h.step ctx c = { h with state := st', failures := h.failures ++ [e] } := by
  unfold step
  rw [hrun]

/-- A call keeps the invariant, however it comes to its end. -/
theorem consistent_step (hh : h.Consistent ctx) (c : Call) : (h.step ctx c).Consistent ctx := by
  have hgrows := Call.grows ctx c h.state
  unfold Run.stateAfter at hgrows
  cases hrun : c.run ctx h.state with
  | ok o st' =>
    rw [hrun] at hgrows
    exact step_of_ok hrun ▸ consistent_ok hh hrun hgrows
  | error e st' =>
    rw [hrun] at hgrows
    exact step_of_error hrun ▸ consistent_error hh hrun hgrows

lemma after_concat (ctx : Context) (cs : List Call) (c : Call) :
    after ctx (cs ++ [c]) = (after ctx cs).step ctx c :=
  List.foldl_concat ..

/-- What holds of the outputs of all calls, and of what is put together from them, holds of all that
comes out. -/
theorem total_after {P : Output → Prop} (hempty : P ∅) (happend : ∀ {a b}, P a → P b → P (a ++ b))
    {cs : List Call} (hcalls : ∀ c ∈ cs, ∀ {o : Output} {st st' : RunState},
      c.run ctx st = .ok o st' → P o) : P (after ctx cs).total := by
  refine List.foldlRecOn (motive := fun h : History => P h.total) cs _ hempty
    fun h hbefore c hc => ?_
  unfold step
  cases hrun : c.run ctx h.state with
  | ok made st' => exact happend hbefore (hcalls c hc hrun)
  | error e st' => exact hbefore

/-- The invariant holds after any calls. -/
theorem consistent_after (ctx : Context) (cs : List Call) : (after ctx cs).Consistent ctx :=
  List.foldlRecOn cs _ (consistent_start ctx) fun _ hh c _ => consistent_step hh c

/-! ## Names -/

lemma Consistent.nodup_names (hh : h.Consistent ctx) : h.total.names.Nodup := by
  rw [List.nodup_iff_count_le_one]
  intro n
  have honce := List.nodup_iff_count_le_one.mp hh.nodup n
  exact (hh.registered n).trans honce

/-- As long as all calls come back, the names that are given out are those of what comes out. -/
lemma Consistent.mem_names_iff (hh : h.Consistent ctx)
    (hreturned : .endlessFragments ∉ h.failures) {n : String} :
    n ∈ h.state.registry.names ↔ n ∈ h.total.names := by
  rw [← List.count_pos_iff, ← List.count_pos_iff, hh.exact hreturned n]

lemma Consistent.nodup_projections (hh : h.Consistent ctx) :
    (h.total.projections.map (·.name)).Nodup := by
  have hnames := hh.nodup_names
  -- of all names, only those of the projections are needed
  unfold Output.names Output.classes at hnames
  rw [List.map_append, List.map_append] at hnames
  have hqualified := (List.nodup_append.mp (List.nodup_append.mp
    (List.nodup_append.mp hnames).1).1).2.1
  -- in one package, classes of different qualified names have different names
  have hsame : (h.total.projections.map GeneratedClass.projection).map (·.qualifiedName)
      = (h.total.projections.map (·.name)).map (clientName ctx) := by
    rw [List.map_map, List.map_map]
    apply List.map_congr_left
    intro c hc
    show c.package ++ "." ++ c.name = ctx.config.clientNamespace ++ "." ++ c.name
    rw [(hh.belongs.classes c hc).package]
  rw [hsame] at hqualified
  exact hqualified.of_map _

/-- Over any calls, no two of the classes and union types that come out have the same name, and
their names are registered. As long as all calls come back, no other name is. -/
theorem names_registered_exactly (ctx : Context) (cs : List Call) :
    let h := after ctx cs
    h.total.names.Nodup
      ∧ h.total.names ⊆ h.state.registry.names
      ∧ (∀ u ∈ h.total.unions, ∃ t ∈ ctx.schema.types, t.kind = .union ∧ t.name = u.name)
      ∧ (.endlessFragments ∉ h.failures →
          h.state.registry.names.Perm h.total.names) := by
  intro h
  have hh : h.Consistent ctx := consistent_after ctx cs
  refine ⟨hh.nodup_names, ?_, hh.belongs.unions, ?_⟩
  · intro n hn
    have hcount := List.count_pos_iff.mpr hn
    exact List.count_pos_iff.mp (hcount.trans_le (hh.registered n))
  · intro hreturned
    rw [List.perm_iff_count]
    intro n
    exact (hh.exact hreturned n).symm

/-! ## Calls that come back -/

/-- A query type that leads to a union, and a mutation type with a field of unknown type. -/
def mediaTypes : List TypeDef :=
  [queryType (plainField "find" "Media"),
   { name := "Mutation", kind := .object, fields := [plainField "rate" "Rating"] },
   { name := "Media", kind := .union, members := ["Book", "Film"] },
   { name := "Book", kind := .object, fields := [plainField "title" "String"] },
   { name := "Film", kind := .object, fields := [plainField "basedOn" "Book"] }]

/-- The setting of these types, with nothing configured. -/
def media : Context where
  schema := { types := mediaTypes }

/-- A call that succeeds, one that fails because of the schema, and one for a data type. -/
def mediaCalls : List Call :=
  (mediaTypes.take 2).map .root ++ [.referenced "Media" none]

/-- The calls on the example come back, so that exactly what has come out is registered. -/
theorem names_registered_exactly_media :
    let h := after media mediaCalls
    .endlessFragments ∉ h.failures ∧ h.state.registry.names.Perm h.total.names := by
  have hreturned : .endlessFragments ∉ (after media mediaCalls).failures := by
    apply endless_not_mem_failures
    intro c _
    exact Call.walks_end (by decide) (by decide) c
  exact ⟨hreturned, (names_registered_exactly media mediaCalls).2.2.2 hreturned⟩

end History

end ClientGen
