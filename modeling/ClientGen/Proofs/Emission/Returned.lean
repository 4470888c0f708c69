import ClientGen.Proofs.Emission.Sound

/-!
# Every class is returned once

In an output that is in balance and whose projections have different names, a method that returns
another class returns exactly one, and a class that has to be returned is returned by exactly one
method.

* `Output.Balanced` states what is needed of an output.
* `Balanced.exists_returned` and `Balanced.exists_caller` lead from methods to classes and back.
* `Balanced.nodup_accessors` says that no two methods return a class of the same name.
-/

namespace ClientGen

/-! ## Accessors of an output -/

/-- The methods that return another class, each with the class that it is a method of. The
federation root is left out. -/
def Output.accessors (ctx : Context) (o : Output) : List (ProjectionClass × Method) :=
  (o.projections.filter (!·.isFederationRoot ctx)).flatMap fun c =>
    (c.methods.filter (·.isAccessor)).map fun m => (c, m)

lemma Output.mem_accessors {ctx : Context} {o : Output} {c : ProjectionClass} {m : Method} :
    (c, m) ∈ o.accessors ctx
      ↔ (c ∈ o.projections ∧ c.isFederationRoot ctx = false)
        ∧ m ∈ c.methods ∧ m.isAccessor = true := by
  unfold Output.accessors
  simp only [List.mem_flatMap, List.mem_map, List.mem_filter, Bool.not_eq_true']
  constructor
  · rintro ⟨c', hc, m', hm, hpair⟩
    cases hpair
    exact ⟨hc, hm⟩
  · rintro ⟨hc, hm⟩
    exact ⟨c, hc, m, hm, rfl⟩

/-- The links of a class are those of its accessors, under the names that these return. -/
lemma map_name_links (ctx : Context) (c : ProjectionClass) (ms : List Method) :
    (ms.filterMap (Method.link? ctx c)).map (·.name)
      = (ms.filter (·.isAccessor)).map (·.returns) := by
  induction ms with
  | nil => rfl
  | cons m ms ih =>
    rw [List.filterMap_cons, List.filter_cons]
    unfold Method.link? Method.isAccessor at *
    cases m.action with
    | select field => exact ih
    | descend field access => exact congrArg (m.returns :: ·) ih
    | narrow type access => exact congrArg (m.returns :: ·) ih

lemma map_name_calls (ctx : Context) (o : Output) :
    (calls ctx o.projections).map (·.name) = (o.accessors ctx).map (·.2.returns) := by
  unfold calls Output.accessors
  rw [List.map_flatMap, List.map_flatMap]
  congr 1
  funext c
  rw [map_name_links, List.map_map]
  rfl

lemma isAccessor_of_link? {ctx : Context} {c : ProjectionClass} {m : Method} {link : Link}
    (h : m.link? ctx c = some link) : m.isAccessor = true := by
  unfold Method.link? at h
  unfold Method.isAccessor
  cases haction : m.action with
  | select field => rw [haction] at h; cases h
  | descend field access => rfl
  | narrow type access => rfl

lemma arrivals_sublist (cs : List ProjectionClass) :
    ((arrivals cs).map (·.name)).Sublist (cs.map (·.name)) := by
  induction cs with
  | nil => exact .slnil
  | cons c cs ih =>
    unfold arrivals at *
    rw [List.filterMap_cons]
    unfold ProjectionClass.arrival? at *
    split
    · exact ih.cons _
    · rename_i link hlink
      -- a class that arrives does so under its own name
      split at hlink
      · cases hlink
        exact ih.cons_cons _
      · cases hlink

/-! ## Balance -/

/-- The projections have different names, and the methods call for exactly those that have to be
returned. -/
structure Output.Balanced (ctx : Context) (o : Output) : Prop where
  nodup : (o.projections.map (·.name)).Nodup
  links : ∀ l, (arrivals o.projections).count l = (calls ctx o.projections).count l

namespace Output.Balanced

variable {ctx : Context} {o : Output}

lemma perm (h : o.Balanced ctx) : (arrivals o.projections).Perm (calls ctx o.projections) :=
  List.perm_iff_count.mpr h.links

/-- No two methods return a class of the same name. -/
theorem nodup_accessors (h : o.Balanced ctx) : ((o.accessors ctx).map (·.2.returns)).Nodup := by
  have harrivals : ((arrivals o.projections).map (·.name)).Nodup :=
    (arrivals_sublist o.projections).nodup h.nodup
  -- calls and arrivals are the same up to their order
  rw [← map_name_calls]
  exact (h.perm.map _).nodup_iff.mp harrivals

/-- What a method calls for is there. -/
theorem exists_returned (h : o.Balanced ctx) {c : ProjectionClass} {m : Method} {link : Link}
    (hc : c ∈ o.projections) (hnot : c.isFederationRoot ctx = false) (hm : m ∈ c.methods)
    (hlink : m.link? ctx c = some link) : ∃ d ∈ o.projections, d.arrival? = some link := by
  have hcalled : link ∈ calls ctx o.projections := by
    refine List.mem_flatMap.mpr ⟨c, List.mem_filter.mpr ⟨hc, by rw [hnot]; rfl⟩, ?_⟩
    exact List.mem_filterMap.mpr ⟨m, hm, hlink⟩
  exact List.mem_filterMap.mp (h.perm.mem_iff.mpr hcalled)

/-- What has to be returned is called for. -/
theorem exists_caller (h : o.Balanced ctx) {d : ProjectionClass} {link : Link}
    (hd : d ∈ o.projections) (harrival : d.arrival? = some link) :
    ∃ c m, (c, m) ∈ o.accessors ctx ∧ m.link? ctx c = some link := by
  have harrived : link ∈ arrivals o.projections := List.mem_filterMap.mpr ⟨d, hd, harrival⟩
  obtain ⟨c, hc, hlinks⟩ := List.mem_flatMap.mp (h.perm.mem_iff.mp harrived)
  obtain ⟨m, hm, hlink⟩ := List.mem_filterMap.mp hlinks
  obtain ⟨hmem, hnot⟩ := List.mem_filter.mp hc
  refine ⟨c, m, Output.mem_accessors.mpr ⟨⟨hmem, by simpa using hnot⟩, hm, ?_⟩, hlink⟩
  exact isAccessor_of_link? hlink

end Output.Balanced

end ClientGen
