import ClientGen.Proofs.FieldFilter.Allowed

/-!
# Marking one field with a skip directive

Two runs of the filter over the fields of a type, the one with a skip directive on a field, the
other without. The other fields that are selected without the mark are selected with it, in the same
order. There may be more of them: whether the include list restricts the type is decided from the
fields that are not skipped, so a list that speaks of the type only through the marked field
restricts it no longer.

* `Config.fields_selectFields` reads a run as a choice among the allowed fields, and
  `Config.chosenAmong_filter` takes fields away before or after this choice.
* `Config.selectFields_marked` says exactly when the mark removes its field and nothing else
  changes.
* `Config.mark_releases_fields` is a type on which it does more.
-/

namespace ClientGen

/-- The field with one more directive. -/
def Field.marked (f : Field) (directive : AppliedDirective) : Field :=
  { f with directives := f.directives ++ [directive] }

namespace Config

variable {c : Config} {type : String} {fields allowed others before after : List Field}
  {f : Field} {root : Bool} {selection? : Option Selection} {directive : AppliedDirective}

/-! ## A choice among the allowed fields -/

/-- The fields that are chosen among the allowed ones: all of them, or those that an example
selects, in its order. -/
def chosenAmong (type : String) (selection? : Option Selection) (allowed : List Field) :
    List Field :=
  match selection? with
  | none => allowed
  | some s => (s.fieldsFor (some type)).filterMap fun t => lastNamed? allowed t.name

lemma fields_selectFields (c : Config) (type : String) (fields : List Field)
    (selection? : Option Selection) (root : Bool) :
    (c.selectFields type fields selection? root).fields
      = chosenAmong type selection? (c.allowedFields type fields root) := by
  cases selection? with
  | none => rfl
  | some s => rfl

lemma lastNamed?_filter (hnames : (allowed.map (·.name)).Nodup) (p : Field → Bool)
    (field : String) :
    lastNamed? (allowed.filter p) field = (lastNamed? allowed field).filter p := by
  have hkept : ((allowed.filter p).map (·.name)).Nodup :=
    hnames.sublist (List.filter_sublist.map _)
  refine Option.ext fun g => ?_
  rw [lastNamed?_eq_some_iff hkept, Option.filter_eq_some_iff, lastNamed?_eq_some_iff hnames,
    List.mem_filter]
  exact and_right_comm

/-- Fields that are taken away before the choice are missing after it, and nothing else is. -/
lemma chosenAmong_filter (hnames : (allowed.map (·.name)).Nodup) (type : String)
    (selection? : Option Selection) (p : Field → Bool) :
    chosenAmong type selection? (allowed.filter p)
      = (chosenAmong type selection? allowed).filter p := by
  cases selection? with
  | none => rfl
  | some s =>
    rw [chosenAmong, chosenAmong, List.filter_filterMap]
    exact List.filterMap_congr fun t _ => lastNamed?_filter hnames p t.name

/-! ## Fields that pass the lists -/

/-- A field passes the include and exclude lists, where the include list restricts its type or
does not. -/
def passes (c : Config) (type : String) (restricted : Bool) (f : Field) : Bool :=
  !namesField c.excludeFields type f.name
    && (!restricted || namesField c.includeFields type f.name)
    && !c.excludeTypes.contains f.typeName

lemma allowedFields_eq (c : Config) (type : String) (fields : List Field) (root : Bool) :
    c.allowedFields type fields root
      = (c.unskipped fields).filter
          (c.passes type (!root && c.restricts type (c.unskipped fields))) :=
  rfl

/-- A restriction only takes the fields away that the include list does not name. -/
lemma passes_true (c : Config) (type : String) (f : Field) :
    c.passes type true f = (namesField c.includeFields type f.name && c.passes type false f) := by
  unfold passes
  cases namesField c.includeFields type f.name <;> simp

/-! ## The fields that are not skipped -/

lemma unskipped_append (c : Config) (fields others : List Field) :
    c.unskipped (fields ++ others) = c.unskipped fields ++ c.unskipped others :=
  List.filter_append ..

/-- A marked field is skipped. -/
lemma unskipped_marked (hskip : directive.name ∈ c.skipDirectives) :
    c.unskipped (before ++ f.marked directive :: after) = c.unskipped (before ++ after) := by
  have hcarries : (c.skipDirectives.any (f.marked directive).carries) = true := by
    refine List.any_eq_true.mpr ⟨directive.name, hskip, ?_⟩
    simp [Field.carries, hasDirective, Field.marked]
  rw [unskipped_append, unskipped_append]
  congr 1
  exact List.filter_cons_of_neg (by simp [hcarries])

lemma filter_name_ne (hnames : ((before ++ f :: after).map (·.name)).Nodup) :
    (before ++ f :: after).filter (·.name ≠ f.name) = before ++ after := by
  rw [List.map_append, List.map_cons, List.nodup_middle, List.nodup_cons, ← List.map_append]
    at hnames
  have hkept : ∀ g ∈ before ++ after, decide (g.name ≠ f.name) = true := fun g hg =>
    decide_eq_true fun heq => hnames.1 (heq ▸ List.mem_map_of_mem hg)
  rw [List.filter_append, List.filter_cons_of_neg (by simp), ← List.filter_append]
  exact List.filter_eq_self.mpr hkept

/-- Without the field of the name, the rest that is not skipped is left. -/
lemma unskipped_filter_name_ne (hnames : ((before ++ f :: after).map (·.name)).Nodup) :
    (c.unskipped (before ++ f :: after)).filter (·.name ≠ f.name)
      = c.unskipped (before ++ after) := by
  rw [unskipped, List.filter_comm, filter_name_ne hnames, unskipped]

/-! ## Restrictions by one field -/

/-- The include list restricts a type by one of its fields only: it does not name the type, nor
another field of it that is not skipped. -/
structure RestrictsOnlyBy (c : Config) (type : String) (others : List Field) (f : Field) :
    Prop where
  unskipped : ∀ directive ∈ c.skipDirectives, ¬ f.carries directive
  named : f.name ∈ c.includeFields
  unqualified : ∀ name ∈ c.includeFields, qualifier? name ≠ some type
  others : ∀ g ∈ others, (∀ directive ∈ c.skipDirectives, ¬ g.carries directive) →
    g.name ∉ c.includeFields

lemma mem_unskipped : f ∈ c.unskipped fields
    ↔ f ∈ fields ∧ ∀ directive ∈ c.skipDirectives, ¬ f.carries directive := by
  simp [unskipped]

/-- The include list restricts a type if it names it, or one of its fields alone that is not
skipped. -/
lemma restricts_unskipped_iff : c.restricts type (c.unskipped fields)
    ↔ (∃ name ∈ c.includeFields, qualifier? name = some type)
      ∨ ∃ f ∈ fields, (∀ directive ∈ c.skipDirectives, ¬ f.carries directive)
          ∧ f.name ∈ c.includeFields := by
  simp only [restricts, Bool.or_eq_true, List.any_eq_true, decide_eq_true_eq, List.contains_eq_mem,
    mem_unskipped, and_assoc]

/-- With one more field a type is restricted that was not before, exactly if this field alone is
the reason. -/
lemma restricts_insert_iff : c.restricts type (c.unskipped (before ++ f :: after))
    ↔ c.restricts type (c.unskipped (before ++ after))
      ∨ c.RestrictsOnlyBy type (before ++ after) f := by
  constructor
  · intro h
    by_contra hnot
    obtain ⟨hrest, honly⟩ := not_or.mp hnot
    rw [restricts_unskipped_iff] at h hrest
    push Not at hrest
    refine honly ?_
    rcases h with ⟨name, hname, hqualified⟩ | ⟨g, hg, hunskipped, hnamed⟩
    · exact (hrest.1 name hname hqualified).elim
    · rcases List.mem_append.mp hg with hg | hg
      · exact (hrest.2 g (List.mem_append_left _ hg) hunskipped hnamed).elim
      · rcases List.mem_cons.mp hg with rfl | hg
        · exact ⟨hunskipped, hnamed, hrest.1, hrest.2⟩
        · exact (hrest.2 g (List.mem_append_right _ hg) hunskipped hnamed).elim
  · rw [restricts_unskipped_iff, restricts_unskipped_iff]
    rintro ((hqualified | ⟨g, hg, hg'⟩) | honly)
    · exact .inl hqualified
    · refine .inr ⟨g, ?_, hg'⟩
      rcases List.mem_append.mp hg with hg | hg
      · exact List.mem_append_left _ hg
      · exact List.mem_append_right _ (List.mem_cons_of_mem _ hg)
    · exact .inr ⟨f, List.mem_append_right _ List.mem_cons_self, honly.unskipped, honly.named⟩

lemma RestrictsOnlyBy.not_restricts (h : c.RestrictsOnlyBy type others f) :
    ¬ c.restricts type (c.unskipped others) := by
  rw [restricts_unskipped_iff]
  rintro (⟨name, hname, hqualified⟩ | ⟨g, hg, hunskipped, hnamed⟩)
  · exact h.unqualified name hname hqualified
  · exact h.others g hg hunskipped hnamed

/-! ## With and without the mark -/

/-- Without the field, its allowed fields are those of the others, restricted as with the field. -/
lemma allowedFields_filter_name_ne (hnames : ((before ++ f :: after).map (·.name)).Nodup) :
    (c.allowedFields type (before ++ f :: after) root).filter (·.name ≠ f.name)
      = (c.unskipped (before ++ after)).filter
          (c.passes type (!root && c.restricts type (c.unskipped (before ++ f :: after)))) := by
  rw [allowedFields_eq, List.filter_comm, unskipped_filter_name_ne hnames]

lemma allowedFields_marked (hskip : directive.name ∈ c.skipDirectives) :
    c.allowedFields type (before ++ f.marked directive :: after) root
      = (c.unskipped (before ++ after)).filter
          (c.passes type (!root && c.restricts type (c.unskipped (before ++ after)))) := by
  rw [allowedFields_eq, unskipped_marked hskip]

/-- Where the field is not the only reason for a restriction, the mark just takes it away. -/
lemma allowedFields_marked_eq (hnames : ((before ++ f :: after).map (·.name)).Nodup)
    (hskip : directive.name ∈ c.skipDirectives)
    (h : ¬ (root = false ∧ c.RestrictsOnlyBy type (before ++ after) f)) :
    c.allowedFields type (before ++ f.marked directive :: after) root
      = (c.allowedFields type (before ++ f :: after) root).filter (·.name ≠ f.name) := by
  have hsame : (!root && c.restricts type (c.unskipped (before ++ f :: after)))
      = (!root && c.restricts type (c.unskipped (before ++ after))) := by
    rw [Bool.eq_iff_iff, Bool.and_eq_true, Bool.and_eq_true, restricts_insert_iff,
      Bool.not_eq_true', and_or_left, or_iff_left h]
  rw [allowedFields_marked hskip, allowedFields_filter_name_ne hnames, hsame]

/-- Where it is the only reason, the other fields come in that the include list does not name. -/
lemma allowedFields_marked_filter (hnames : ((before ++ f :: after).map (·.name)).Nodup)
    (hskip : directive.name ∈ c.skipDirectives) (hroot : root = false)
    (honly : c.RestrictsOnlyBy type (before ++ after) f) :
    (c.allowedFields type (before ++ f.marked directive :: after) root).filter
        (namesField c.includeFields type ·.name)
      = (c.allowedFields type (before ++ f :: after) root).filter (·.name ≠ f.name) := by
  have hbefore : c.restricts type (c.unskipped (before ++ f :: after)) = true :=
    restricts_insert_iff.mpr (.inr honly)
  have hafter : c.restricts type (c.unskipped (before ++ after)) = false :=
    Bool.eq_false_iff.mpr honly.not_restricts
  rw [allowedFields_marked hskip, allowedFields_filter_name_ne hnames, hbefore, hafter, hroot,
    List.filter_filter]
  exact List.filter_congr fun g _ => (passes_true c type g).symm

/-- With the mark the include list restricts the type only if it did without, and not by the marked
field alone. -/
lemma restricts_marked_iff (hskip : directive.name ∈ c.skipDirectives) :
    c.restricts type (c.unskipped (before ++ f.marked directive :: after))
      ↔ c.restricts type (c.unskipped (before ++ f :: after))
        ∧ ¬ c.RestrictsOnlyBy type (before ++ after) f := by
  rw [unskipped_marked hskip, restricts_insert_iff]
  constructor
  · exact fun h => ⟨.inl h, fun honly => honly.not_restricts h⟩
  · rintro ⟨h, hnot⟩
    exact h.resolve_right hnot

/-- Marking a field of a type with a skip directive takes it out of the fields that are selected,
and the others stay in their order. Others come in besides exactly if the include list restricted
the type by this field only: then it restricts the type no longer, and they are those that the list
does not name. -/
theorem selectFields_marked (c : Config) (type : String) (before after : List Field) (f : Field)
    (directive : AppliedDirective) (selection? : Option Selection) (root : Bool)
    (hnames : ((before ++ f :: after).map (·.name)).Nodup)
    (hskip : directive.name ∈ c.skipDirectives) :
    ((c.selectFields type (before ++ f.marked directive :: after) selection? root).fields
          = (c.selectFields type (before ++ f :: after) selection? root).fields.filter
              (·.name ≠ f.name)
        ↔ (root = false ∧ c.RestrictsOnlyBy type (before ++ after) f →
            ∀ g ∈ (c.selectFields type (before ++ f.marked directive :: after) selection?
                root).fields,
              namesField c.includeFields type g.name))
      ∧ (root = false ∧ c.RestrictsOnlyBy type (before ++ after) f →
          (c.selectFields type (before ++ f.marked directive :: after) selection?
              root).fields.filter (namesField c.includeFields type ·.name)
            = (c.selectFields type (before ++ f :: after) selection? root).fields.filter
                (·.name ≠ f.name))
      ∧ (c.restricts type (c.unskipped (before ++ f.marked directive :: after))
        ↔ c.restricts type (c.unskipped (before ++ f :: after))
          ∧ ¬ c.RestrictsOnlyBy type (before ++ after) f) := by
  have hmarkedNames : ((before ++ f.marked directive :: after).map (·.name)).Nodup := by
    rw [List.map_append, List.map_cons] at hnames ⊢
    exact hnames
  have hkept : ((c.allowedFields type (before ++ f :: after) root).map (·.name)).Nodup :=
    hnames.sublist (allowedFields_sublist.map _)
  have hkeptMarked :
      ((c.allowedFields type (before ++ f.marked directive :: after) root).map (·.name)).Nodup :=
    hmarkedNames.sublist (allowedFields_sublist.map _)
  -- both runs choose in the same way, so it is enough to compare what they choose from
  rw [fields_selectFields, fields_selectFields, ← chosenAmong_filter hkept,
    ← chosenAmong_filter hkeptMarked]
  by_cases h : root = false ∧ c.RestrictsOnlyBy type (before ++ after) f
  · have hfilter := allowedFields_marked_filter hnames hskip h.1 h.2
    refine ⟨?_, fun _ => congrArg _ hfilter, restricts_marked_iff hskip⟩
    rw [← hfilter, chosenAmong_filter hkeptMarked, eq_comm, List.filter_eq_self]
    exact ⟨fun hall _ => hall, fun hall => hall h⟩
  · rw [allowedFields_marked_eq hnames hskip h]
    exact ⟨⟨fun _ hnot => (h hnot).elim, fun _ => rfl⟩, fun hnot => (h hnot).elim,
      restricts_marked_iff hskip⟩

/-- Where the list names `title` besides, `sequel` is taken out by its mark and `title` stays. -/
theorem selectFields_marked_sequel :
    (filmFields.map (·.name)).Nodup ∧ "skipcodegen" ∈ filmConfig.skipDirectives
      ∧ (({ includeFields := ["title", "sequel"] } : Config).selectFields "Film"
            (filmFields.take 3 ++ filmFields[3].marked ⟨"skipcodegen", []⟩ :: filmFields.drop 4)
            (some filmExample) false).fields
          = (({ includeFields := ["title", "sequel"] } : Config).selectFields "Film" filmFields
              (some filmExample) false).fields.filter (·.name ≠ "sequel") := by
  have hnames : (filmFields.map (·.name)).Nodup := by decide
  refine ⟨hnames, by decide, ?_⟩
  refine (selectFields_marked { includeFields := ["title", "sequel"] } "Film" (filmFields.take 3)
    (filmFields.drop 4) filmFields[3] ⟨"skipcodegen", []⟩ (some filmExample) false hnames
    (by decide)).1.mpr ?_
  rintro ⟨_, honly⟩
  exact (honly.others filmFields[0] (by simp [filmFields]) (by decide) (by decide)).elim

/-- Where the list names `title` only, its mark lets the year of a film in. -/
theorem mark_releases_fields :
    ¬ ∀ (c : Config) (type : String) (before after : List Field) (f : Field)
        (directive : AppliedDirective) (selection? : Option Selection) (root : Bool),
      ((before ++ f :: after).map (·.name)).Nodup → directive.name ∈ c.skipDirectives →
        (c.selectFields type (before ++ f.marked directive :: after) selection? root).fields
          = (c.selectFields type (before ++ f :: after) selection? root).fields.filter
              (·.name ≠ f.name) := by
  intro hall
  have hremoved := hall { includeFields := ["title"] } "Film" [] [filmFields[1]] filmFields[0]
    ⟨"skipcodegen", []⟩ none false (by decide) (by decide)
  have hcount := congrArg List.length hremoved
  exact absurd hcount (by decide +kernel)

end Config

end ClientGen
