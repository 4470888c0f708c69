import ClientGen.Proofs.Options.Flags

/-!
# Names that are given out alike

Two runs with different flags give out different names: those of nested classes differ if only one
of the runs shortens them, and those of data types are missing from the run without data types. The
other names, here the common ones, are given out alike, and they are the only ones that a run looks
at. So the two runs open the same classes at every step.

* `Common` says which names count, and `Agree` that two states have given out the same of them.
* `agree_of_run`, `agree_of_opens` and `freeStem_withFlags` say that the basic steps keep two states
  in agreement.
-/

namespace ClientGen

open ClientGen.Projection

variable {ctx : Context} {short types : Bool}

/-! ## Common names -/

/-- The names that a run gives out whatever its flags: those of query classes and root classes,
those of nested classes as long as both runs shorten them or neither does, and those of data types
as long as both runs have them or neither does. -/
inductive Common (ctx : Context) (short types : Bool) (n : String) : Prop where
  | query (h : IsQueryName ctx n)
  | root (h : IsRootName ctx n)
  | nested {stem : String} (flag : short = ctx.config.shortNames) (dotless : Dotless stem)
      (h : n = clientName ctx (classOfStem stem))
  | dataType {package name : String} (flag : types = ctx.config.dataTypes)
      (away : package ≠ ctx.config.clientNamespace) (dotless : Dotless name)
      (h : n = package ++ "." ++ name)

/-- The names of nested classes are not common if only one of the runs shortens them. -/
lemma not_common_nested {stem : String} (hflag : short ≠ ctx.config.shortNames)
    (hstem : Dotless stem) : ¬ Common ctx short types (clientName ctx (classOfStem stem)) := by
  rintro (⟨field, _, hsame⟩ | ⟨field, _, hsame⟩ | ⟨flag, _, _⟩ | ⟨_, haway, hname, hsame⟩)
  · exact queryName_ne_classOfStem field stem (clientName_injective ctx hsame).symm
  · exact rootPlan_name_ne_classOfStem field stem (clientName_injective ctx hsame).symm
  · exact hflag flag
  · exact haway (eq_of_qualified (dotless_classOfStem hstem) hname hsame).1.symm

/-- The names of data types are not common if only one of the runs has them. -/
lemma not_common_of_types (hflag : types ≠ ctx.config.dataTypes) {package name : String}
    (haway : package ≠ ctx.config.clientNamespace) (hname : Dotless name) :
    ¬ Common ctx short types (package ++ "." ++ name) := by
  rintro (⟨field, hfield, hsame⟩ | ⟨field, hfield, hsame⟩ | ⟨_, hstem, hsame⟩ | ⟨flag, _, _, _⟩)
  · exact haway (eq_of_qualified hname (dotless_queryName hfield) hsame).1
  · exact haway (eq_of_qualified hname (dotless_rootPlan_name hfield) hsame).1
  · exact haway (eq_of_qualified hname (dotless_classOfStem hstem) hsame).1
  · exact hflag flag

/-- Two states agree: the same common names have been given out, and if both runs shorten names or
neither does, the same short forms. -/
structure Agree (ctx : Context) (short types : Bool) (st st' : RunState) : Prop where
  names : ∀ n, Common ctx short types n → (n ∈ st'.registry.names ↔ n ∈ st.registry.names)
  shortener : short = ctx.config.shortNames → st'.shortener = st.shortener
  dotless : st.shortener.Dotless
  dotless' : st'.shortener.Dotless

lemma agree_start (ctx : Context) (short types : Bool) : Agree ctx short types {} {} :=
  ⟨fun _ _ => Iff.rfl, fun _ => rfl, Naming.Shortener.dotless_start,
    Naming.Shortener.dotless_start⟩

variable {st mid st' mid' : RunState}

namespace Agree

/-- Where the same common names are added, two states go on to agree. -/
lemma of_accounts {a b : Output} (h : Agree ctx short types st st')
    (ha : Accounts st.registry a mid.registry) (hb : Accounts st'.registry b mid'.registry)
    (hadded : ∀ n, Common ctx short types n → (n ∈ b.names ↔ n ∈ a.names))
    (hkept : mid.shortener = st.shortener) (hkept' : mid'.shortener = st'.shortener) :
    Agree ctx short types mid mid' := by
  refine ⟨fun n hn => ?_, fun flag => ?_, hkept ▸ h.dotless, hkept' ▸ h.dotless'⟩
  · rw [ha.mem_iff, hb.mem_iff, hadded n hn, h.names n hn]
  · rw [hkept, hkept', h.shortener flag]

/-- Two names are given out: the same in both, or two that do not count. -/
lemma registered {name name' : String} (h : Agree ctx short types st st')
    (hsame : name' = name ∨ ¬ Common ctx short types name ∧ ¬ Common ctx short types name') :
    Agree ctx short types { st with registry := ⟨name :: st.registry.names⟩ }
      { st' with registry := ⟨name' :: st'.registry.names⟩ } := by
  refine ⟨fun n hn => ?_, h.shortener, h.dotless, h.dotless'⟩
  rw [List.mem_cons, List.mem_cons, h.names n hn]
  rcases hsame with rfl | ⟨hnot, hnot'⟩
  · rfl
  · have hne : n ≠ name := fun hc => hnot (hc ▸ hn)
    have hne' : n ≠ name' := fun hc => hnot' (hc ▸ hn)
    simp only [hne, hne', false_or]

end Agree

/-! ## Data types -/

/-- Emitting data types shortens no name. -/
lemma shortener_of_run {package : String} {stack : List Wanted} {a : Output}
    (h : DataTypes.run ctx package stack st = .ok a mid) : mid.shortener = st.shortener := by
  unfold DataTypes.run at h
  split at h
  · cases h
    rfl
  · cases h
    rfl

/-- The names of the data types of a run are in packages apart from that of the client. -/
lemma names_of_run (hnames : ctx.schema.Dotless) {package : String} {stack : List Wanted}
    {a : Output} (haway : package ≠ ctx.config.clientNamespace)
    (h : DataTypes.run ctx package stack st = .ok a mid) {n : String} (hn : n ∈ a.names) :
    ∃ other name, other ≠ ctx.config.clientNamespace ∧ Dotless name
      ∧ n = other ++ "." ++ name := by
  obtain ⟨hinner, hnone⟩ := inner_of_run haway h
  rcases hinner.names hnames hn with ⟨hsome, _⟩ | hother
  · exact (hsome hnone).elim
  · exact hother

/-- If both runs have data types or neither does, the same ones come out. -/
lemma run_withFlags (hnames : ctx.schema.Dotless) (hagree : Agree ctx short types st st')
    (hflag : types = ctx.config.dataTypes) {package : String} {stack : List Wanted}
    {a b : Output} (haway : package ≠ ctx.config.clientNamespace)
    (h : DataTypes.run ctx package stack st = .ok a mid)
    (h' : DataTypes.run (ctx.withFlags short types) package stack st' = .ok b mid') : b = a := by
  have hflag' : (ctx.withFlags short types).config.dataTypes = ctx.config.dataTypes := hflag
  unfold DataTypes.run at h h'
  rw [hflag'] at h'
  by_cases hdata : ctx.config.dataTypes = true
  · rw [if_pos hdata] at h h'
    cases h
    cases h'
    refine DataTypes.emit_withFlags fun t ht => ?_
    exact hagree.names _ (.dataType hflag haway (hnames.type ht) rfl)
  · rw [if_neg hdata] at h h'
    cases h
    cases h'
    rfl

/-- Emitting data types keeps the agreement. -/
theorem agree_of_run (hnames : ctx.schema.Dotless) (hagree : Agree ctx short types st st')
    {package : String} {stack : List Wanted} {a b : Output}
    (haway : package ≠ ctx.config.clientNamespace)
    (h : DataTypes.run ctx package stack st = .ok a mid)
    (h' : DataTypes.run (ctx.withFlags short types) package stack st' = .ok b mid') :
    Agree ctx short types mid mid' := by
  refine hagree.of_accounts (sound_types h).accounts (sound_types h').accounts (fun n hn => ?_)
    (shortener_of_run h) (shortener_of_run h')
  by_cases hflag : types = ctx.config.dataTypes
  · rw [run_withFlags hnames hagree hflag haway h h']
  · -- no data type of either run has a common name
    have hnot : n ∉ a.names := by
      intro hmem
      obtain ⟨other, name, hother, hname, rfl⟩ := names_of_run hnames haway h hmem
      exact not_common_of_types hflag hother hname hn
    have hnot' : n ∉ b.names := by
      intro hmem
      have hnames' : (ctx.withFlags short types).schema.Dotless := hnames
      obtain ⟨other, name, hother, hname, rfl⟩ := names_of_run hnames' haway h' hmem
      exact not_common_of_types hflag hother hname hn
    simp only [hnot, hnot']

/-! ## Nested classes -/

lemma Dotless.candidate {name : String} (h : Dotless name) (k : ℕ) :
    Dotless (Naming.candidate name k) := by
  induction k generalizing name with
  | zero => exact h
  | succ k ih => exact ih (h.append (by decide))

/-- If both runs shorten names or neither does, the same stem is free. -/
theorem freeStem_withFlags (hagree : Agree ctx short types st st')
    (hflag : short = ctx.config.shortNames) {stem : String} (hstem : Dotless stem) :
    freeStem (ctx.withFlags short types) st'.registry stem = freeStem ctx st.registry stem := by
  have hfree := clientName_freeStem_not_mem ctx st.registry stem
  have hfree' := clientName_freeStem_not_mem (ctx.withFlags short types) st'.registry stem
  apply Naming.firstFree_congr
  · -- each candidate counts, as it is the name of a nested class
    intro k
    have hcommon := hagree.names _ (.nested hflag (hstem.candidate k) rfl)
    exact Bool.eq_iff_iff.mpr
      (List.contains_iff_mem.trans (hcommon.trans List.contains_iff_mem.symm))
  · exact Bool.eq_false_iff.mpr fun hc => hfree (List.contains_iff_mem.mp hc)
  · exact Bool.eq_false_iff.mpr fun hc => hfree' (List.contains_iff_mem.mp hc)

/-- If both runs shorten names or neither does, the stems below two plans of one stem are the
same. -/
lemma childStem_withFlags {plan plan' : ClassPlan} {stem stem' : String} {ready ready' : RunState}
    (hflag : short = ctx.config.shortNames) (hbase : plan'.base = plan.base)
    (hsame : plan'.stem = plan.stem) (hshort : st'.shortener = st.shortener)
    (h : plan.childStem ctx st = .ok stem ready)
    (h' : plan'.childStem (ctx.withFlags short types) st' = .ok stem' ready') :
    stem' = stem ∧ ready'.shortener = ready.shortener := by
  have hflag' : (ctx.withFlags short types).config.shortNames = ctx.config.shortNames := hflag
  unfold ClassPlan.childStem at h h'
  rw [hflag', hbase, hsame] at h'
  split at h
  · rename_i hshortens
    rw [if_pos hshortens] at h'
    cases h
    cases h'
    exact ⟨by rw [hshort], by rw [hshort]⟩
  · rename_i hkeeps
    rw [if_neg hkeeps] at h'
    cases h
    cases h'
    exact ⟨rfl, hshort⟩

/-- Opening the classes of two plans keeps the agreement, if these have the same name, or are named
after stems and only one of the runs shortens them. -/
theorem agree_of_opens (hagree : Agree ctx short types st st') {plan plan' : ClassPlan}
    {stem stem' : String} {ready ready' : RunState} (h : Opens ctx plan stem st ready)
    (h' : Opens (ctx.withFlags short types) plan' stem' st' ready')
    (hbase : plan'.base = plan.base)
    (hname : plan'.name = plan.name
      ∨ short ≠ ctx.config.shortNames ∧ plan.name = classOfStem plan.stem
        ∧ plan'.name = classOfStem plan'.stem)
    (hsame : short = ctx.config.shortNames → plan'.stem = plan.stem)
    (hstem : Dotless plan.stem) (hstem' : Dotless plan'.stem) :
    Agree ctx short types ready ready' ∧ (short = ctx.config.shortNames → stem' = stem) := by
  have hdotless := (dotless_of_opens h hstem hagree.dotless).2
  have hdotless' := (dotless_of_opens h' hstem' hagree.dotless').2
  obtain ⟨_, hready⟩ := Naming.Registry.register?_eq_some.mp h.registered
  obtain ⟨_, hready'⟩ := Naming.Registry.register?_eq_some.mp h'.registered
  -- where the names of the two classes differ, neither of them counts
  have hcount : clientName ctx plan'.name = clientName ctx plan.name
      ∨ ¬ Common ctx short types (clientName ctx plan.name)
        ∧ ¬ Common ctx short types (clientName ctx plan'.name) := by
    rcases hname with hname | ⟨hflag, hname, hname'⟩
    · exact .inl (hname ▸ rfl)
    · rw [hname, hname']
      exact .inr ⟨not_common_nested hflag hstem, not_common_nested hflag hstem'⟩
  have hgiven := hagree.registered hcount
  obtain ⟨mid, hregister, hchild⟩ := h
  obtain ⟨mid', hregister', hchild'⟩ := h'
  obtain ⟨_, rfl⟩ := registerClass_eq_true.mp hregister
  obtain ⟨_, rfl⟩ := registerClass_eq_true.mp hregister'
  have hstems := fun flag =>
    childStem_withFlags flag hbase (hsame flag) (hgiven.shortener flag) hchild hchild'
  refine ⟨⟨fun n hn => ?_, fun flag => (hstems flag).2, hdotless, hdotless'⟩,
    fun flag => (hstems flag).1⟩
  rw [hready, hready']
  exact hgiven.names n hn

end ClientGen
