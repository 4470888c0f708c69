import ClientGen.Proofs.Calls.Covered
import ClientGen.Proofs.Options.Renaming
import Mathlib.GroupTheory.GroupAction.MultipleTransitivity

/-!
# What the flags do to a client

Whatever root types are asked for, one after the other on one context: the flag for short names
changes nothing but the names of projections, and the flag for data types changes nothing of the
client.

* `alike_generateRoot` carries the agreement of two runs through a call.
* `flags_only_rename` is what it comes to for any calls: as the names of the projections of each
  run are all different, one renaming takes all classes to their counterparts.
-/

namespace ClientGen

open ClientGen.Document (OperationKind)
open ClientGen.Projection

variable {ctx : Context} {short types : Bool} {st st' mid mid' : RunState} {a b : Output}

/-! ## Root fields -/

section

variable (hnames : ctx.schema.Dotless) (hapart : ctx.TypesApart)

include hnames hapart

/-- Both runs make the query class of a root field, or both pass it over. -/
lemma alike_emitQuery {kind : OperationKind} {f : Field} (hf : Dotless f.name)
    (hagree : Agree ctx short types st st') (h : emitQuery ctx kind f st = .ok a mid)
    (h' : emitQuery (ctx.withFlags short types) kind f st' = .ok b mid') :
    a.Alike ctx short types (fun _ => True) b ∧ Agree ctx short types mid mid' := by
  have hquery := hagree.names (clientName ctx (queryName f.name)) (.query ⟨f.name, hf, rfl⟩)
  rcases emitQuery_cases h with ⟨hgiven, rfl, rfl⟩ | ⟨hfree, made, hmade, rfl⟩
  · rcases emitQuery_cases h' with ⟨_, rfl, rfl⟩ | ⟨hfree', _⟩
    · exact ⟨.empty, hagree⟩
    · exact (hfree' (hquery.mpr hgiven)).elim
  · rcases emitQuery_cases h' with ⟨hgiven, _⟩ | ⟨_, made', hmade', rfl⟩
    · exact (hfree (hquery.mp hgiven)).elim
    · obtain ⟨htypes, hlast⟩ := alike_of_argumentTypes hnames (hagree.registered (.inl rfl)) hapart
        hmade hmade' fun _ => True
      refine ⟨Output.Alike.append (.of_none ?_ rfl rfl fun _ => rfl) htypes, hlast⟩
      show [queryClass (ctx.withFlags short types) kind f] = [queryClass ctx kind f]
      rw [queryClass_withFlags]

lemma alike_emitRootProjection {root : TypeDef} {f : Field} (hf : Dotless f.name)
    (hagree : Agree ctx short types st st')
    (h : emitRootProjection ctx root (ctx.example? (rootKind ctx root)) f st = .ok a mid)
    (h' : emitRootProjection (ctx.withFlags short types) root
      (ctx.example? (rootKind ctx root)) f st' = .ok b mid') :
    a.Alike ctx short types (fun _ => True) b ∧ Agree ctx short types mid mid' := by
  rcases emitRootProjection_cases h with ⟨hnone, rfl, rfl⟩ | ⟨target, hfind, htree⟩
  · rcases emitRootProjection_cases h' with ⟨_, rfl, rfl⟩ | ⟨target, hfind, _⟩
    · exact ⟨.empty, hagree⟩
    · exact absurd (hnone.symm.trans hfind) (Option.some_ne_none target).symm
  · rcases emitRootProjection_cases h' with ⟨hnone, _⟩ | ⟨target', hfind', htree'⟩
    · exact absurd (hfind.symm.trans hnone) (Option.some_ne_none target)
    · obtain rfl : target = target' := Option.some.inj (hfind.symm.trans hfind')
      exact alike_emitTree hnames hapart (hapart.operation (rootKind ctx root)) hf hagree htree
        htree'

lemma alike_emitRootFields {root : TypeDef} {fs : List Field} (hfs : ∀ f ∈ fs, Dotless f.name)
    (hagree : Agree ctx short types st st')
    (h : emitRootFields ctx (rootKind ctx root) root fs st = .ok a mid)
    (h' : emitRootFields (ctx.withFlags short types) (rootKind ctx root) root fs st'
      = .ok b mid') :
    a.Alike ctx short types (fun _ => True) b ∧ Agree ctx short types mid mid' := by
  induction fs generalizing st st' a b mid mid' with
  | nil =>
    obtain ⟨rfl, rfl⟩ := Run.pure_eq_ok.mp h
    obtain ⟨rfl, rfl⟩ := Run.pure_eq_ok.mp h'
    exact ⟨.empty, hagree⟩
  | cons f fs ih =>
    have hf := hfs f List.mem_cons_self
    obtain ⟨query, asked, projection, grown, more, hquery, hprojection, hmore, rfl⟩ :=
      emitRootFields_cons h
    obtain ⟨query', asked', projection', grown', more', hquery', hprojection', hmore', rfl⟩ :=
      emitRootFields_cons h'
    obtain ⟨hqueries, hasked⟩ := alike_emitQuery hnames hapart hf hagree hquery hquery'
    obtain ⟨htree, hgrown⟩ :=
      alike_emitRootProjection hnames hapart hf hasked hprojection hprojection'
    obtain ⟨hrest, hlast⟩ := ih (fun g hg => hfs g (List.mem_cons_of_mem _ hg)) hgrown hmore hmore'
    exact ⟨(hqueries.append htree).append hrest, hlast⟩

/-- Two runs that agree go on to agree over a root type, and make the same classes of it, up to a
renaming. -/
theorem alike_generateRoot {root : TypeDef} (hagree : Agree ctx short types st st')
    (h : generateRoot ctx root st = .ok a mid)
    (h' : generateRoot (ctx.withFlags short types) root st' = .ok b mid') :
    a.Alike ctx short types (fun _ => True) b ∧ Agree ctx short types mid mid' := by
  obtain ⟨_, made, hmade, rfl⟩ := generateRoot_of_ok h
  obtain ⟨_, made', hmade', rfl⟩ := generateRoot_of_ok h'
  have hdotless : ∀ f ∈ (rootFields ctx (rootKind ctx root) root).fields, Dotless f.name :=
    fun f hf => hnames.field (mem_fieldsOf_of_mem_rootFields hf)
  obtain ⟨halike, hlast⟩ := alike_emitRootFields hnames hapart hdotless hagree hmade hmade'
  exact ⟨Output.Alike.append (.of_none rfl rfl rfl fun _ => rfl) halike, hlast⟩

end

/-! ## Calls -/

/-- Whether a root type has a field of unknown type is seen without any flag. -/
lemma generateRoot_throws_or_tame (ctx : Context) (short types : Bool) (root : TypeDef) :
    (∃ e, generateRoot ctx root = throw (.schema e)
        ∧ generateRoot (ctx.withFlags short types) root = throw (.schema e))
      ∨ (∃ ends, (generateRoot ctx root).Tame ends)
        ∧ ∃ ends, (generateRoot (ctx.withFlags short types) root).Tame ends := by
  rcases generateRoot_cases ctx root with ⟨f, hunknown, hthrow⟩ | ⟨hknown, _⟩
  · left
    rcases generateRoot_cases (ctx.withFlags short types) root with
      ⟨g, hunknown', hthrow'⟩ | ⟨hknown', _⟩
    · obtain rfl : f = g := Option.some.inj (hunknown.symm.trans hunknown')
      exact ⟨_, hthrow, hthrow'⟩
    · exact absurd (hunknown.symm.trans hknown') (Option.some_ne_none f)
  · right
    exact ⟨⟨_, tame_generateRoot ctx hknown⟩,
      ⟨_, tame_generateRoot (ctx.withFlags short types) hknown⟩⟩

/-- Two contexts that differ in their flags are asked for the same root types. As long as all calls
come back, what has come out is the same up to a renaming. -/
theorem alike_after (hnames : ctx.schema.Dotless) (hapart : ctx.TypesApart) (roots : List TypeDef)
    (hreturned : .endlessFragments ∉ (History.after ctx (roots.map .root)).failures)
    (hreturned' : .endlessFragments
      ∉ (History.after (ctx.withFlags short types) (roots.map .root)).failures) :
    (History.after ctx (roots.map .root)).total.Alike ctx short types (fun _ => True)
        (History.after (ctx.withFlags short types) (roots.map .root)).total
      ∧ Agree ctx short types (History.after ctx (roots.map .root)).state
        (History.after (ctx.withFlags short types) (roots.map .root)).state := by
  induction roots using List.reverseRecOn with
  | nil => exact ⟨.empty, agree_start ctx short types⟩
  | append_singleton roots root ih =>
    rw [List.map_append, List.map_singleton, History.after_concat] at hreturned hreturned'
    rw [List.map_append, List.map_singleton, History.after_concat, History.after_concat]
    generalize History.after ctx (roots.map .root) = h at *
    generalize History.after (ctx.withFlags short types) (roots.map .root) = h' at *
    rcases generateRoot_throws_or_tame ctx short types root with
      ⟨e, hthrow, hthrow'⟩ | ⟨⟨_, htame⟩, ⟨_, htame'⟩⟩
    · -- neither call changes anything but the failures
      have hfail : (Call.root root).run ctx h.state = .error (.schema e) h.state :=
        congrFun hthrow h.state
      have hfail' : (Call.root root).run (ctx.withFlags short types) h'.state
          = .error (.schema e) h'.state :=
        congrFun hthrow' h'.state
      rw [History.step_of_error hfail] at hreturned ⊢
      rw [History.step_of_error hfail'] at hreturned' ⊢
      exact ih (fun hc => hreturned (List.mem_append_left _ hc))
        fun hc => hreturned' (List.mem_append_left _ hc)
    · -- calls that are not refused can only fail by never coming back, which these do not
      cases hrun : (Call.root root).run ctx h.state with
      | error e mid =>
        obtain rfl := htame.fails hrun
        rw [History.step_of_error hrun] at hreturned
        exact (hreturned (List.mem_append_right _ List.mem_cons_self)).elim
      | ok made mid =>
        cases hrun' : (Call.root root).run (ctx.withFlags short types) h'.state with
        | error e mid' =>
          obtain rfl := htame'.fails hrun'
          rw [History.step_of_error hrun'] at hreturned'
          exact (hreturned' (List.mem_append_right _ List.mem_cons_self)).elim
        | ok made' mid' =>
          rw [History.step_of_ok hrun] at hreturned ⊢
          rw [History.step_of_ok hrun'] at hreturned' ⊢
          obtain ⟨htotal, hagree⟩ := ih hreturned hreturned'
          obtain ⟨hmade, hlast⟩ := alike_generateRoot hnames hapart hagree hrun hrun'
          exact ⟨htotal.append hmade, hlast⟩

/-! ## One renaming -/

/-- Different names are taken to as many different names by a renaming of all names. -/
lemma exists_perm_map {names names' : List String} (h : names.Nodup) (h' : names'.Nodup)
    (hlength : names'.length = names.length) : ∃ ρ : Equiv.Perm String, names' = names.map ρ := by
  have htransitive := Equiv.Perm.isMultiplyPretransitive String names.length
  let source : Fin names.length ↪ String := ⟨names.get, List.nodup_iff_injective_get.mp h⟩
  let target : Fin names.length ↪ String :=
    ⟨fun i => names'.get (i.cast hlength.symm),
      (List.nodup_iff_injective_get.mp h').comp (Fin.cast_injective _)⟩
  obtain ⟨ρ, hρ⟩ := MulAction.exists_smul_eq (Equiv.Perm String) source target
  refine ⟨ρ, List.ext_getElem (by rw [List.length_map, hlength]) fun i hi hi' => ?_⟩
  have hat := congrArg (fun e : Fin names.length ↪ String => e ⟨i, hlength ▸ hi⟩) hρ
  rw [List.getElem_map]
  exact hat.symm

/-- Root types are asked for on two contexts that differ in two flags: whether names are shortened,
and whether there are data types. As long as all calls come back, the query classes are the same;
the projections are the same, one by one, up to a renaming, which changes nothing if both contexts
shorten names or neither does; and the data types are the same if both contexts have them or neither
does. -/
theorem flags_only_rename (hnames : ctx.schema.Dotless) (hapart : ctx.TypesApart) (short types : Bool)
    (roots : List TypeDef)
    (hreturned : .endlessFragments ∉ (History.after ctx (roots.map .root)).failures)
    (hreturned' : .endlessFragments
      ∉ (History.after (ctx.withFlags short types) (roots.map .root)).failures) :
    let o := (History.after ctx (roots.map .root)).total
    let o' := (History.after (ctx.withFlags short types) (roots.map .root)).total
    o'.queries = o.queries
      ∧ (∃ ρ : Equiv.Perm String, o'.projections = o.projections.map (·.renamed ρ)
          ∧ (short = ctx.config.shortNames → ρ = 1))
      ∧ (short = ctx.config.shortNames → o'.projections = o.projections)
      ∧ (types = ctx.config.dataTypes → o'.dataTypes = o.dataTypes) := by
  intro o o'
  have halike : o.Alike ctx short types (fun _ => True) o' :=
    (alike_after hnames hapart roots hreturned hreturned').1
  have hsame : short = ctx.config.shortNames → o'.projections = o.projections.map (·.renamed id) :=
    fun flag => halike.renamed id trivial (halike.names flag)
  refine ⟨halike.queries, ?_, fun flag => ?_, halike.dataTypes⟩
  · by_cases flag : short = ctx.config.shortNames
    · exact ⟨1, hsame flag, fun _ => rfl⟩
    · -- the names of the classes of each run are all different
      have hnodup := (History.consistent_after ctx (roots.map .root)).nodup_projections
      have hnodup' :=
        (History.consistent_after (ctx.withFlags short types) (roots.map .root)).nodup_projections
      have hlength :
          (o'.projections.map (·.name)).length = (o.projections.map (·.name)).length := by
        rw [List.length_map, List.length_map, halike.count]
      obtain ⟨ρ, hρ⟩ := exists_perm_map hnodup hnodup' hlength
      rw [List.map_map] at hρ
      exact ⟨ρ, halike.renamed ρ trivial hρ, fun hc => (flag hc).elim⟩
  · rw [hsame flag]
    have hid : (fun c : ProjectionClass => c.renamed id) = id := funext ProjectionClass.renamed_id
    rw [hid, List.map_id]

/-- The types of a schema that leads three fields deep: `type Query { films: Film }`,
`type Film { director: Person }`, `type Person { agent: Agent }` and
`type Agent { name: String }`. -/
def creditTypes : List TypeDef :=
  [queryType (plainField "films" "Film"),
   { name := "Film", kind := .object, fields := [plainField "director" "Person"] },
   { name := "Person", kind := .object, fields := [plainField "agent" "Agent"] },
   { name := "Agent", kind := .object, fields := [plainField "name" "String"] }]

/-- The setting of these types, with nothing configured. -/
def credits : Context where
  schema := { types := creditTypes }

/-- The client with short names and without data types is that with full names and data types, under
other names. -/
theorem flags_only_rename_credits :
    let o := (History.after credits ((creditTypes.take 1).map .root)).total
    let o' := (History.after (credits.withFlags true false) ((creditTypes.take 1).map .root)).total
    o'.queries = o.queries
      ∧ ∃ ρ : Equiv.Perm String, o'.projections = o.projections.map (·.renamed ρ) := by
  have hapart : credits.TypesApart := ⟨by decide, fun _ _ hexample => by cases hexample⟩
  have hreturned : .endlessFragments
      ∉ (History.after credits ((creditTypes.take 1).map .root)).failures :=
    History.endless_not_mem_failures fun c _ => Call.walks_end (by decide) (by decide) c
  have hreturned' : .endlessFragments ∉ (History.after (credits.withFlags true false)
      ((creditTypes.take 1).map .root)).failures :=
    History.endless_not_mem_failures fun c _ => Call.walks_end (by decide) (by decide) c
  obtain ⟨hqueries, ⟨ρ, hprojections, _⟩, _⟩ :=
    flags_only_rename (by decide) hapart true false (creditTypes.take 1) hreturned hreturned'
  exact ⟨hqueries, ρ, hprojections⟩

end ClientGen
