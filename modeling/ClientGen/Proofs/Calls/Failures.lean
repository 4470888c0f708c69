import ClientGen.Proofs.Generation.Plain

/-!
# Calls that fail because of the schema

A call for a root type fails because of the schema exactly if one of the fields that are generated
is of a type that is not known. The first of them is named in the message. Nothing has been given
out by then, so that the calls that come later do what they would have done without it.

* `History.foldl_step`: what calls bring depends on the state from which they start, and on
  nothing else of what came before.
* `root_fails_before_names`: when a call for a root type fails, with what message, and what it
  leaves behind.
-/

namespace ClientGen

/-! ## Known types -/

/-- The type is one of those that every schema has, or one that this schema declares. -/
def Schema.Knows (s : Schema) (name : String) : Prop :=
  name ∈ Schema.builtinScalars ∨ ∃ t ∈ s.types, t.name = name

lemma Schema.isKnownType_iff {s : Schema} {name : String} :
    s.isKnownType name = true ↔ s.Knows name := by
  simp [isKnownType, Knows, findType?, List.find?_isSome]

/-- The first of some fields that is of a type that is not known, with the fields before it. -/
structure IsFirstUnknown (s : Schema) (fields before : List Field) (f : Field) : Prop where
  leads : before ++ [f] <+: fields
  known : ∀ g ∈ before, s.Knows g.typeName
  unknown : ¬s.Knows f.typeName

lemma message_unknownRootFieldType (root field typeName : String) :
    (SchemaError.unknownRootFieldType root field typeName).message
      = root ++ "." ++ field ++ " returns unknown type '" ++ typeName ++ "'" := by
  simp only [SchemaError.message]
  rfl

variable {s : Schema} {fields : List Field}

lemma exists_of_unknownField? {f : Field} (h : unknownField? s fields = some f) :
    ∃ before, IsFirstUnknown s fields before f := by
  obtain ⟨hf, before, after, rfl, hbefore⟩ := List.find?_eq_some_iff_append.mp h
  refine ⟨before, ⟨after, by simp⟩, fun g hg => ?_, fun hknows => ?_⟩
  · exact Schema.isKnownType_iff.mp (by simpa using hbefore g hg)
  · simp [Schema.isKnownType_iff.mpr hknows] at hf

lemma unknownField?_eq_none_iff :
    unknownField? s fields = none ↔ ∀ f ∈ fields, s.Knows f.typeName := by
  unfold unknownField?
  simp only [List.find?_eq_none, Bool.not_eq_true', Bool.not_eq_false, Schema.isKnownType_iff]

/-! ## Later calls -/

namespace History

variable {ctx : Context}

/-- Where calls lead that come after others. -/
def followedBy (h own : History) : History where
  state := own.state
  total := h.total ++ own.total
  failures := h.failures ++ own.failures

/-- What one call brings depends on what there was before only through the state. -/
lemma step_followedBy (h own : History) (c : Call) :
    (h.followedBy own).step ctx c = h.followedBy (own.step ctx c) := by
  have hstate : (h.followedBy own).state = own.state := rfl
  unfold step
  rw [hstate]
  cases c.run ctx own.state with
  | ok made st' => simp only [followedBy, Output.append_assoc]
  | error e st' => simp only [followedBy, List.append_assoc]

/-- What any calls bring depends on what there was before only through the state. -/
theorem foldl_step (later : List Call) (h : History) :
    later.foldl (step ctx) h
      = h.followedBy (later.foldl (step ctx) { state := h.state }) := by
  induction later using List.reverseRecOn with
  | nil => simp [followedBy, Output.append_empty]
  | append_singleton later c ih =>
    rw [List.foldl_concat, List.foldl_concat, ih, step_followedBy]

end History

/-! ## Root types -/

variable {ctx : Context} {root : TypeDef} {st : RunState}

/-- A call for a root type fails because of the schema only with the first field of unknown
type. -/
lemma of_schemaError_generateRoot {e : SchemaError} {st' : RunState}
    (h : generateRoot ctx root st = .error (.schema e) st') :
    st' = st ∧ ∃ f, e = .unknownRootFieldType root.name f.name f.typeName
      ∧ unknownField? ctx.schema (rootFields ctx (rootKind ctx root) root).fields = some f := by
  rcases generateRoot_cases ctx root with ⟨f, hunknown, hthrow⟩ | ⟨hknown, -⟩
  · rw [hthrow] at h
    cases h
    exact ⟨rfl, f, rfl, hunknown⟩
  · cases (tame_generateRoot ctx hknown).fails h

/-- Where a field is of unknown type, the call fails. -/
lemma generateRoot_of_unknownField? {f : Field}
    (h : unknownField? ctx.schema (rootFields ctx (rootKind ctx root) root).fields = some f) :
    generateRoot ctx root st = .error (.schema (.unknownRootFieldType root.name f.name f.typeName))
      st := by
  rcases generateRoot_cases ctx root with ⟨g, hunknown, hthrow⟩ | ⟨hknown, -⟩
  · obtain rfl : g = f := Option.some.inj (hunknown.symm.trans h)
    rw [hthrow]
    rfl
  · simp [hknown] at h

/-- A call for a root type fails because of the schema exactly if one of the fields that are
generated is of a type that is not known. The message names the first of them, the state stays
as it was, and all later calls bring what they would have brought without the call that failed. -/
theorem root_fails_before_names (ctx : Context) (root : TypeDef) (h : History) :
    let fields := (rootFields ctx (rootKind ctx root) root).fields
    ((∃ e st', generateRoot ctx root h.state = .error (.schema e) st')
      ↔ ∃ f ∈ fields, ¬ctx.schema.Knows f.typeName) ∧
    ∀ e st', generateRoot ctx root h.state = .error (.schema e) st' →
      (∃ before f, IsFirstUnknown ctx.schema fields before f ∧
        e.message
          = root.name ++ "." ++ f.name ++ " returns unknown type '" ++ f.typeName ++ "'") ∧
      st' = h.state ∧
      ∀ later : List Call,
        let spared := later.foldl (History.step ctx) h
        let failed := later.foldl (History.step ctx) (h.step ctx (.root root))
        failed.state = spared.state ∧ failed.total = spared.total ∧
        ∃ more, spared.failures = h.failures ++ more
          ∧ failed.failures = h.failures ++ .schema e :: more := by
  intro fields
  refine ⟨⟨?_, ?_⟩, ?_⟩
  · rintro ⟨e, st', hfail⟩
    obtain ⟨-, f, -, hf⟩ := of_schemaError_generateRoot hfail
    obtain ⟨before, hfirst⟩ := exists_of_unknownField? hf
    exact ⟨f, hfirst.leads.subset (by simp), hfirst.unknown⟩
  · rintro ⟨f, hf, hunknown⟩
    cases hg : unknownField? ctx.schema fields with
    | none => exact absurd (unknownField?_eq_none_iff.mp hg f hf) hunknown
    | some g => exact ⟨_, _, generateRoot_of_unknownField? hg⟩
  · intro e st' hfail
    obtain ⟨rfl, f, rfl, hf⟩ := of_schemaError_generateRoot hfail
    obtain ⟨before, hfirst⟩ := exists_of_unknownField? hf
    refine ⟨⟨before, f, hfirst, ?_⟩, rfl, fun later => ?_⟩
    · exact message_unknownRootFieldType ..
    · have hstep : h.step ctx (.root root) = { h with failures := h.failures ++ [_] } :=
        History.step_of_error hfail
      rw [hstep, History.foldl_step later h, History.foldl_step later { h with failures := _ }]
      exact ⟨rfl, rfl, _, rfl, List.append_cons ..|>.symm⟩

/-- A query type with a field of a type that is declared, and one of a type that is not. -/
def movieQuery : TypeDef where
  name := "Query"
  kind := .object
  fields := [plainField "book" "Book", plainField "movie" "Movie"]

/-- The type `type Book { title: String }`. -/
def titledBook : TypeDef where
  name := "Book"
  kind := .object
  fields := [plainField "title" "String"]

/-- A mutation type with a field of the declared type. -/
def bookMutation : TypeDef where
  name := "Mutation"
  kind := .object
  fields := [plainField "lend" "Book"]

/-- The setting of these types, with nothing configured. -/
def undeclared : Context where
  schema := { types := [movieQuery, bookMutation, titledBook] }

/-- After a data type has been asked for, the call for this query type fails. The message names its
second field, and what comes of the mutation type later is the same as without the call. -/
theorem root_fails_before_names_undeclared :
    let before := History.after undeclared [.dataType titledBook none none]
    let after := before.step undeclared (.root movieQuery)
    before.state.registry.names = ["generated.types.Book"] ∧
    (∃ e, generateRoot undeclared movieQuery before.state = .error (.schema e) before.state ∧
      e.message = "Query.movie returns unknown type 'Movie'") ∧
    (after.step undeclared (.root bookMutation)).state
      = (before.step undeclared (.root bookMutation)).state ∧
    (after.step undeclared (.root bookMutation)).total
      = (before.step undeclared (.root bookMutation)).total := by
  intro before after
  have hbook : undeclared.schema.findType? "Book" = some titledBook := rfl
  have hrun : (Call.dataType titledBook none none).run undeclared ({} : History).state = .ok _ _ :=
    run_of_free (w := ⟨"Book", none⟩) rfl hbook (by decide) List.not_mem_nil rfl
  have hbefore : before.state.registry.names = ["generated.types.Book"] :=
    congrArg (fun h : History => h.state.registry.names) (History.step_of_ok hrun)
  have hfields : (rootFields undeclared (rootKind undeclared movieQuery) movieQuery).fields
      = [plainField "book" "Book", plainField "movie" "Movie"] := rfl
  have hknown : undeclared.schema.Knows "Book" := Schema.isKnownType_iff.mp rfl
  have hunknown : ¬undeclared.schema.Knows "Movie" := by
    rw [← Schema.isKnownType_iff]
    decide
  obtain ⟨hiff, hfails⟩ := root_fails_before_names undeclared movieQuery before
  obtain ⟨e, st', hfail⟩ := hiff.mpr ⟨plainField "movie" "Movie", by simp [hfields], hunknown⟩
  obtain ⟨⟨known, f, hfirst, hmessage⟩, rfl, hlater⟩ := hfails e st' hfail
  -- the first field is of a known type, so it is the second one
  have hname : f = plainField "movie" "Movie" := by
    have hleads : known ++ [f] <+: [plainField "book" "Book", plainField "movie" "Movie"] :=
      hfields ▸ hfirst.leads
    cases known with
    | nil =>
      obtain rfl : f = plainField "book" "Book" := by simpa using hleads
      exact absurd hknown hfirst.unknown
    | cons g known =>
      cases known with
      | nil =>
        obtain ⟨-, hsecond⟩ : g = plainField "book" "Book" ∧ f = plainField "movie" "Movie" := by
          simpa using hleads
        exact hsecond
      | cons g' known => simp at hleads
  obtain ⟨hstate, htotal, -⟩ := hlater [.root bookMutation]
  exact ⟨hbefore, ⟨e, hfail, by rw [hmessage, hname]; rfl⟩, hstate, htotal⟩

end ClientGen
