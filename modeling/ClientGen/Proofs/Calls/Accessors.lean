import ClientGen.Proofs.Calls.Names
import ClientGen.Proofs.Emission.Returned

/-!
# Accessors over many calls

A client follows the methods of its projections from class to class. Whatever has been asked for
on a context, in any order and whether it succeeded or not, every such method finds its class: the
one that was made for it, at the right type, in the right tree. And no class is made in vain.

* `Returns` is what a method and the class that it returns have to do with each other.
* `accessors_return_one_class` is the property of all histories.
-/

namespace ClientGen

/-- The class is the one that a method of another class has to return: it stands for the type of
the field, or for a type behind the interface or union, and it belongs to the same tree. -/
structure Returns (ctx : Context) (c : ProjectionClass) (m : Method) (d : ProjectionClass) :
    Prop where
  target : match m.action with
    | .select _ => False
    | .descend field _ =>
      d.base = .sub ∧ fieldTypeName? ctx c.schemaType field = some d.schemaType
    | .narrow type _ =>
      d.base = .fragment ∧ d.includeTypename = true ∧ d.schemaType = type
        ∧ ∃ t ∈ concreteTypesOf ctx c.schemaType, t.name = type
  name : d.name = m.returns
  parent : d.parent? = some c.name
  root : d.root? = c.root?

variable {ctx : Context} {c d : ProjectionClass} {m : Method} {link : Link}

lemma exists_of_concreteName? {type concrete name : String}
    (h : concreteName? ctx type concrete = some name) :
    name = concrete ∧ ∃ t ∈ concreteTypesOf ctx type, t.name = concrete := by
  obtain ⟨t, ht, rfl⟩ := Option.map_eq_some_iff.mp h
  have hname : t.name = concrete := by simpa using List.find?_some ht
  exact ⟨hname, t, List.mem_of_find?_eq_some ht, hname⟩

/-- A class that says of itself what a method calls for is the one that the method returns. -/
lemma returns_of_link (hlink : m.link? ctx c = some link) (harrival : d.arrival? = some link) :
    Returns ctx c m d := by
  unfold ProjectionClass.arrival? at harrival
  split at harrival
  · obtain rfl := Option.some.inj harrival
    unfold Method.link? at hlink
    cases haction : m.action with
    | select field =>
      rw [haction] at hlink
      cases hlink
    | descend field access =>
      rw [haction] at hlink
      obtain ⟨hname, htype, hbase, _, hparent, hroot⟩ := Link.mk.inj (Option.some.inj hlink)
      refine ⟨?_, hname.symm, hparent.symm, hroot.symm⟩
      rw [haction]
      exact ⟨hbase.symm, htype⟩
    | narrow type access =>
      rw [haction] at hlink
      obtain ⟨hname, htype, hbase, htypename, hparent, hroot⟩ :=
        Link.mk.inj (Option.some.inj hlink)
      obtain ⟨hsame, hconcrete⟩ := exists_of_concreteName? htype
      refine ⟨?_, hname.symm, hparent.symm, hroot.symm⟩
      rw [haction]
      exact ⟨hbase.symm, htypename.symm, hsame, hconcrete⟩
  · cases harrival

lemma exists_link (h : m.isAccessor = true) (c : ProjectionClass) :
    ∃ link, m.link? ctx c = some link := by
  unfold Method.isAccessor at h
  unfold Method.link?
  cases haction : m.action with
  | select field => rw [haction] at h; cases h
  | descend field access => exact ⟨_, rfl⟩
  | narrow type access => exact ⟨_, rfl⟩

lemma exists_arrival (hd : d.Belongs ctx)
    (h : d.base = .sub ∨ d.base = .fragment ∧ d.isKeyFragment = false) :
    ∃ link, d.arrival? = some link := by
  have hbelow : d.base = .sub ∨ d.base = .fragment ∧ d.includeTypename = true := by
    rcases h with hsub | ⟨hfragment, hkey⟩
    · exact .inl hsub
    · rcases hd.fragment hfragment with htypename | htrue
      · exact .inr ⟨hfragment, htypename⟩
      · rw [hkey] at htrue
        cases htrue
  unfold ProjectionClass.arrival?
  exact ⟨_, if_pos hbelow⟩

lemma History.Consistent.balanced {h : History} (hh : h.Consistent ctx) :
    h.total.Balanced ctx :=
  ⟨hh.nodup_projections, hh.links⟩

/-- Over any calls, every method that returns another class returns the only projection of that
name, which is the right one; and every class below a root or below a fragment on an entity type
is returned by exactly one method. -/
theorem accessors_return_one_class (ctx : Context) (cs : List Call) :
    let total := (History.after ctx cs).total
    (∀ c ∈ total.projections, c.isFederationRoot ctx = false →
      ∀ m ∈ c.methods, m.isAccessor = true →
        ∃ d, total.projections.filter (·.name = m.returns) = [d] ∧ Returns ctx c m d)
    ∧ ∀ d ∈ total.projections, d.base = .sub ∨ d.base = .fragment ∧ d.isKeyFragment = false →
        ∃ c m, (total.accessors ctx).filter (·.2.returns = d.name) = [(c, m)]
          ∧ Returns ctx c m d := by
  intro total
  have hconsistent := History.consistent_after ctx cs
  have hbalanced : total.Balanced ctx := hconsistent.balanced
  constructor
  · intro c hc hnot m hm haccessor
    obtain ⟨link, hlink⟩ := exists_link haccessor c
    obtain ⟨d, hd, harrival⟩ := hbalanced.exists_returned hc hnot hm hlink
    have hreturns := returns_of_link hlink harrival
    refine ⟨d, ?_, hreturns⟩
    -- no other projection has the name
    rw [← hreturns.name]
    exact filter_eq_singleton hbalanced.nodup hd
  · intro d hd hbelow
    obtain ⟨link, harrival⟩ := exists_arrival (hconsistent.belongs.classes d hd) hbelow
    obtain ⟨c, m, hmem, hlink⟩ := hbalanced.exists_caller hd harrival
    have hreturns := returns_of_link hlink harrival
    refine ⟨c, m, ?_, hreturns⟩
    -- no other method returns the name
    rw [hreturns.name]
    exact filter_eq_singleton hbalanced.nodup_accessors hmem

end ClientGen
