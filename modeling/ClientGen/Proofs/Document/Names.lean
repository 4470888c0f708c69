import ClientGen.Document.Reader
import ClientGen.Proofs.Document.Lexing

/-!
# Names in documents

A name token is a row of letters, digits and underscores, and readers only take tokens from the
front. So the names that come out of a document are names of the grammar.

* `Reader.Ensures` says of a reader what holds of its results, as long as the tokens are those of a
  text; it is put together along the reader.
* `isName_of_read?` is what it comes to for the names of operations.
-/

namespace ClientGen.Document

/-! ## Tokens -/

/-- A name token has a name of the grammar. -/
def Token.Named (t : Token) : Prop :=
  ∀ s, t = .name s → Token.isName s = true

namespace Token

lemma named_of_unsigned? {negative : Bool} {cs rest : List Char} {t : Token}
    (h : unsigned? negative cs = some (t, rest)) : t.Named := by
  unfold unsigned? at h
  rintro s rfl
  obtain ⟨⟨whole, cs⟩, _, h⟩ := Option.bind_eq_some_iff.mp h
  dsimp only at h
  split at h
  · cases h
  · obtain ⟨⟨fraction, cs⟩, _, h⟩ := Option.bind_eq_some_iff.mp h
    obtain ⟨⟨exponent, cs⟩, _, h⟩ := Option.bind_eq_some_iff.mp h
    dsimp only at h
    split at h
    · cases h
    · split at h <;> cases h

lemma isName_takeWhile {c : Char} (hc : isNameStart c = true) (cs : List Char) :
    isName (String.ofList (c :: cs.takeWhile isNamePart)) = true := by
  unfold isName
  rw [String.toList_ofList]
  exact Bool.and_eq_true_iff.mpr ⟨hc, List.all_takeWhile⟩

lemma named_of_read? {cs rest : List Char} {t : Token} (h : read? cs = some (t, rest)) :
    t.Named := by
  rintro s rfl
  unfold read? at h
  split at h
  · cases h
  · obtain ⟨_, _, h⟩ := Option.map_eq_some_iff.mp h
    cases h
  · obtain ⟨_, _, h⟩ := Option.map_eq_some_iff.mp h
    cases h
  · exact named_of_unsigned? h s rfl
  · split at h
    · cases h
    · split at h
      · rename_i hc
        cases h
        exact isName_takeWhile hc _
      · exact named_of_unsigned? h s rfl
  · cases h

lemma named_of_ofChars? {cs : List Char} {ts : List Token} (h : ofChars? cs = some ts) :
    ∀ t ∈ ts, t.Named := by
  unfold ofChars? at h
  generalize cs.length + 1 = fuel at h
  induction fuel generalizing cs ts with
  | zero => cases h
  | succ fuel ih =>
    unfold readAll? at h
    split at h
    · cases h
      exact fun t ht => absurd ht List.not_mem_nil
    · obtain ⟨⟨t, rest⟩, hread, h⟩ := Option.bind_eq_some_iff.mp h
      obtain ⟨more, hmore, h⟩ := Option.bind_eq_some_iff.mp h
      cases h
      intro u hu
      rcases List.mem_cons.mp hu with rfl | hu
      · exact named_of_read? hread
      · exact ih hmore u hu

end Token

/-- The name of an operation, if it has one, is a name of the grammar. -/
def Operation.Named (o : Operation) : Prop :=
  ∀ s, o.name? = some s → Token.isName s = true

/-- As a definition, an operation has no name or a name of the grammar. -/
def Definition.Named (d : Definition) : Prop :=
  ∀ o, d = .operation o → o.Named

namespace Reader

/-! ## What readers ensure -/

variable {α β : Type} {Q : α → Prop} {R : β → Prop} {r : Reader α} {k : α → Reader β}

/-- From tokens of a text the reader leaves such tokens, and its result has a property. -/
def Ensures (Q : α → Prop) (r : Reader α) : Prop :=
  ∀ ts a rest, (∀ t ∈ ts, t.Named) → r ts = some (a, rest) → Q a ∧ ∀ t ∈ rest, t.Named

/-- Nothing is said of the result. -/
abbrev Plain (r : Reader α) : Prop :=
  Ensures (fun _ => True) r

namespace Ensures

lemma weaken {Q' : α → Prop} (h : Ensures Q r) (himp : ∀ a, Q a → Q' a) : Ensures Q' r :=
  fun ts a rest hts hr => ⟨himp a (h ts a rest hts hr).1, (h ts a rest hts hr).2⟩

lemma plain (h : Ensures Q r) : Plain r :=
  h.weaken fun _ _ => trivial

lemma pure {a : α} (h : Q a) : Ensures Q (pure a) := by
  intro ts b rest hts hr
  cases hr
  exact ⟨h, hts⟩

lemma failure : Ensures Q failure := by
  intro ts a rest _ hr
  cases hr

lemma bind (h : Ensures Q r) (hk : ∀ a, Q a → Ensures R (k a)) : Ensures R (r >>= k) := by
  intro ts b rest hts hr
  obtain ⟨⟨a, mid⟩, ha, hb⟩ := Option.bind_eq_some_iff.mp hr
  obtain ⟨hQ, hmid⟩ := h ts a mid hts ha
  exact hk a hQ mid b rest hmid hb

/-- After a reader of which nothing is said. -/
lemma after (h : Plain r) (hk : ∀ a, Ensures R (k a)) : Ensures R (r >>= k) :=
  h.bind fun a _ => hk a

lemma ite {c : Prop} [Decidable c] {r' : Reader α} (h : Ensures Q r) (h' : Ensures Q r') :
    Ensures Q (if c then r else r') := by
  split
  · exact h
  · exact h'

end Ensures

/-! ## Single tokens -/

lemma ensures_next : Ensures Token.Named next := by
  intro ts t rest hts hr
  cases ts with
  | nil => cases hr
  | cons u us =>
    cases hr
    exact ⟨hts t List.mem_cons_self, fun v hv => hts v (List.mem_cons_of_mem _ hv)⟩

lemma ensures_peek? : Ensures (fun t? => ∀ t, t? = some t → t.Named) peek? := by
  intro ts t? rest hts hr
  cases hr
  exact ⟨fun t ht => hts t (List.mem_of_head? ht), hts⟩

lemma plain_accept (token : Token) : Plain (accept token) := by
  intro ts b rest hts hr
  unfold accept at hr
  split at hr
  · cases hr
    exact ⟨trivial, hts⟩
  · split at hr
    · cases hr
      exact ⟨trivial, fun v hv => hts v (List.mem_cons_of_mem _ hv)⟩
    · cases hr
      exact ⟨trivial, hts⟩

lemma plain_expect (token : Token) : Plain (expect token) :=
  ensures_next.plain.after fun _ => .ite (.pure trivial) .failure

lemma ensures_name : Ensures (Token.isName · = true) name := by
  refine ensures_next.bind fun t ht => ?_
  split
  · exact .pure (ht _ rfl)
  · exact .failure

lemma plain_name : Plain name := ensures_name.plain

lemma ensures_fueled {reader : ℕ → Reader α} (h : ∀ fuel, Ensures Q (reader fuel)) :
    Ensures Q (fueled reader) :=
  fun ts => h ts.length ts

/-! ## Rows -/

section

variable {item : Reader α} {opening close separator : Token}

lemma plain_itemsUntil (h : Plain item) (fuel : ℕ) : Plain (itemsUntil item close fuel) := by
  induction fuel with
  | zero => exact .failure
  | succ fuel ih =>
    exact (plain_accept close).after fun _ =>
      .ite (.pure trivial) (h.after fun _ => ih.after fun _ => .pure trivial)

lemma plain_items (h : Plain item) : Plain (items item close) :=
  ensures_fueled (plain_itemsUntil h)

lemma plain_someItems (h : Plain item) : Plain (someItems item close) :=
  h.after fun _ => (plain_items h).after fun _ => .pure trivial

lemma plain_optionalItems (h : Plain item) : Plain (optionalItems opening item close) :=
  (plain_accept opening).after fun _ => .ite (plain_someItems h) (.pure trivial)

lemma plain_moreSeparated (h : Plain item) (fuel : ℕ) :
    Plain (moreSeparated separator item fuel) := by
  induction fuel with
  | zero => exact .pure trivial
  | succ fuel ih =>
    exact (plain_accept separator).after fun _ =>
      .ite (h.after fun _ => ih.after fun _ => .pure trivial) (.pure trivial)

lemma plain_separated (h : Plain item) : Plain (separated separator item) :=
  (plain_accept separator).after fun _ => h.after fun _ =>
    (ensures_fueled (plain_moreSeparated h)).after fun _ => .pure trivial

end

/-! ## Values and types -/

lemma plain_valueWithin (constant : Bool) (fuel : ℕ) : Plain (valueWithin constant fuel) := by
  induction fuel with
  | zero => exact .failure
  | succ fuel ih =>
    refine ensures_next.plain.after fun t => ?_
    split
    · exact .pure trivial
    · exact .pure trivial
    · exact .pure trivial
    · exact .pure trivial
    · exact (plain_items ih).after fun _ => .pure trivial
    · have hentry : Plain (entryWith (valueWithin constant fuel)) :=
        plain_name.after fun _ => (plain_expect _).after fun _ => ih.after fun _ => .pure trivial
      exact (plain_items hentry).after fun _ => .pure trivial
    · exact .ite .failure (plain_name.after fun _ => .pure trivial)
    · exact .failure

lemma plain_value (constant : Bool) : Plain (value constant) :=
  ensures_fueled (plain_valueWithin constant)

lemma plain_arguments (constant : Bool) : Plain (arguments constant) := by
  have hargument : Plain (argument constant) :=
    plain_name.after fun _ => (plain_expect _).after fun _ =>
      (plain_value constant).after fun _ => .pure trivial
  exact plain_optionalItems hargument

lemma plain_directivesWithin (constant : Bool) (fuel : ℕ) :
    Plain (directivesWithin constant fuel) := by
  induction fuel with
  | zero => exact .pure trivial
  | succ fuel ih =>
    exact (plain_accept _).after fun _ =>
      .ite (plain_name.after fun _ => (plain_arguments constant).after fun _ =>
        ih.after fun _ => .pure trivial) (.pure trivial)

lemma plain_directives (constant : Bool) : Plain (directives constant) :=
  ensures_fueled (plain_directivesWithin constant)

lemma plain_typeRefWithin (fuel : ℕ) : Plain (typeRefWithin fuel) := by
  induction fuel with
  | zero => exact .failure
  | succ fuel ih =>
    refine ensures_next.plain.after fun t => ?_
    have hmark : ∀ inner : TypeRef,
        Plain (do return if ← accept (.mark '!') then .nonNull inner else inner) :=
      fun _ => (plain_accept _).after fun _ => .pure trivial
    split
    · exact hmark _
    · exact ih.after fun _ => (plain_expect _).after fun _ => hmark _
    · exact .failure

lemma plain_typeRef : Plain typeRef :=
  ensures_fueled plain_typeRefWithin

lemma plain_defaultValue : Plain defaultValue :=
  (plain_accept _).after fun _ =>
    .ite ((plain_value true).after fun _ => .pure trivial) (.pure trivial)

/-! ## Selections -/

section

variable {children : Reader (List SelectionNode)}

lemma plain_fieldBody (h : Plain children) (alias? : Option String) (key : String) :
    Plain (fieldBody alias? key children) := by
  refine (plain_arguments false).after fun _ => (plain_directives false).after fun _ =>
    ensures_peek?.plain.after fun _ => ?_
  split
  · exact h.after fun _ => .pure trivial
  · exact .pure trivial

lemma plain_fragmentAfter (h : Plain children) : Plain (fragmentAfter children) := by
  refine ensures_peek?.plain.after fun _ => ?_
  split
  · exact ensures_next.plain.after fun _ =>
      .ite (plain_name.after fun _ => (plain_directives false).after fun _ =>
        h.after fun _ => .pure trivial) ((plain_directives false).after fun _ => .pure trivial)
  · exact (plain_directives false).after fun _ => h.after fun _ => .pure trivial

lemma plain_selectionWith (h : Plain children) : Plain (selectionWith children) := by
  refine ensures_next.plain.after fun t => ?_
  split
  · exact (plain_accept _).after fun _ =>
      .ite (plain_name.after fun _ => plain_fieldBody h _ _) (plain_fieldBody h _ _)
  · exact plain_fragmentAfter h
  · exact .failure

end

lemma plain_selectionSetWithin (fuel : ℕ) : Plain (selectionSetWithin fuel) := by
  induction fuel with
  | zero => exact .failure
  | succ fuel ih =>
    exact (plain_expect _).after fun _ => plain_someItems (plain_selectionWith ih)

lemma plain_selectionSet : Plain selectionSet :=
  ensures_fueled plain_selectionSetWithin

/-! ## Operations -/

lemma plain_variableDefinition : Plain variableDefinition :=
  (plain_expect _).after fun _ => plain_name.after fun _ => (plain_expect _).after fun _ =>
    plain_typeRef.after fun _ => plain_defaultValue.after fun _ =>
      (plain_directives true).after fun _ => .pure trivial

lemma ensures_operationAfter (kind : OperationKind) :
    Ensures Operation.Named (operationAfter kind) := by
  have hrest : ∀ name? : Option String, (∀ s, name? = some s → Token.isName s = true) →
      Ensures Operation.Named (do
        let parameters ← optionalItems (.mark '(') variableDefinition (.mark ')')
        let dirs ← directives false
        return ⟨kind, name?, parameters, dirs, ← selectionSet⟩) := fun name? hname =>
    (plain_optionalItems plain_variableDefinition).after fun _ =>
      (plain_directives false).after fun _ => plain_selectionSet.after fun _ => .pure hname
  refine ensures_peek?.bind fun t? ht => ?_
  split
  · rename_i text
    exact ensures_next.plain.after fun _ => hrest (some text) fun s hs =>
      ht _ rfl s (Option.some.inj hs ▸ rfl)
  · exact hrest none fun s hs => by cases hs

lemma plain_fragmentDefinitionAfter : Plain fragmentDefinitionAfter := by
  have hrest : ∀ key : String, Plain (do
      expect (.name "on")
      let condition ← name
      let dirs ← directives false
      return (⟨key, condition, dirs, ← selectionSet⟩ : Fragment)) := fun _ =>
    (plain_expect _).after fun _ => plain_name.after fun _ => (plain_directives false).after
      fun _ => plain_selectionSet.after fun _ => .pure trivial
  exact plain_name.after fun key => .ite (Ensures.failure.after fun _ => hrest key) (hrest key)

/-! ## Type system definitions -/

lemma plain_description : Plain description := by
  refine ensures_peek?.plain.after fun _ => ?_
  split
  · exact ensures_next.plain.after fun _ => .pure trivial
  · exact .pure trivial

lemma plain_inputDefinition : Plain inputDefinition :=
  plain_description.after fun _ => plain_name.after fun _ => (plain_expect _).after fun _ =>
    plain_typeRef.after fun _ => plain_defaultValue.after fun _ =>
      (plain_directives true).after fun _ => .pure trivial

lemma plain_fieldDefinition : Plain fieldDefinition :=
  plain_description.after fun _ => plain_name.after fun _ =>
    (plain_optionalItems plain_inputDefinition).after fun _ => (plain_expect _).after fun _ =>
      plain_typeRef.after fun _ => (plain_directives true).after fun _ => .pure trivial

lemma plain_fieldDefinitions : Plain fieldDefinitions :=
  plain_optionalItems plain_fieldDefinition

lemma plain_interfaces : Plain interfaces :=
  (plain_accept _).after fun _ => .ite (plain_separated plain_name) (.pure trivial)

lemma plain_members : Plain members :=
  (plain_accept _).after fun _ => .ite (plain_separated plain_name) (.pure trivial)

lemma plain_enumValues : Plain enumValues := by
  have hrest : ∀ (about : Option String) (key : String),
      Plain (do return (⟨about, key, ← directives true⟩ : EnumValueDefinition)) := fun _ _ =>
    (plain_directives true).after fun _ => .pure trivial
  have hvalue : Plain enumValueDefinition :=
    plain_description.after fun about => plain_name.after fun key =>
      .ite (Ensures.failure.after fun _ => hrest about key) (hrest about key)
  exact plain_optionalItems hvalue

lemma plain_inputFields : Plain inputFields :=
  plain_optionalItems plain_inputDefinition

lemma plain_operationRoot : Plain operationRoot := by
  refine plain_name.after fun _ => ?_
  split
  · exact .failure
  · exact (plain_expect _).after fun _ => plain_name.after fun _ => .pure trivial

/-! ## Definitions -/

lemma ensures_directiveDefinitionAfter : Ensures Definition.Named directiveDefinitionAfter := by
  have hlocation : Plain directiveLocation :=
    plain_name.after fun _ => .ite (.pure trivial) .failure
  exact (plain_expect _).after fun _ => plain_name.after fun _ =>
    (plain_optionalItems plain_inputDefinition).after fun _ => (plain_accept _).after fun _ =>
      (plain_expect _).after fun _ => (plain_separated hlocation).after fun _ => .pure nofun

lemma ensures_typeSystemAfter? {about : Option String} {keyword : String}
    {reader : Reader Definition} (h : typeSystemAfter? about keyword = some reader) :
    Ensures Definition.Named reader := by
  unfold typeSystemAfter? at h
  split at h <;> cases h
  · exact (plain_directives true).after fun _ => (plain_expect _).after fun _ =>
      (plain_someItems plain_operationRoot).after fun _ => .pure nofun
  · exact plain_name.after fun _ => (plain_directives true).after fun _ => .pure nofun
  · exact plain_name.after fun _ => plain_interfaces.after fun _ =>
      (plain_directives true).after fun _ => plain_fieldDefinitions.after fun _ => .pure nofun
  · exact plain_name.after fun _ => plain_interfaces.after fun _ =>
      (plain_directives true).after fun _ => plain_fieldDefinitions.after fun _ => .pure nofun
  · exact plain_name.after fun _ => (plain_directives true).after fun _ =>
      plain_members.after fun _ => .pure nofun
  · exact plain_name.after fun _ => (plain_directives true).after fun _ =>
      plain_enumValues.after fun _ => .pure nofun
  · exact plain_name.after fun _ => (plain_directives true).after fun _ =>
      plain_inputFields.after fun _ => .pure nofun
  · exact ensures_directiveDefinitionAfter

/-- An extension that has to add something. -/
lemma ensures_unless {c : Prop} [Decidable c] {d : Definition} (h : d.Named) :
    Ensures Definition.Named (do
      if c then failure
      return d) :=
  .ite (Ensures.failure.after fun _ => .pure h) (.pure h)

lemma ensures_extensionAfter (keyword : String) :
    Ensures Definition.Named (extensionAfter keyword) := by
  unfold extensionAfter
  split
  · exact (plain_directives true).after fun _ =>
      (plain_optionalItems plain_operationRoot).after fun _ => ensures_unless nofun
  · exact plain_name.after fun _ => (plain_directives true).after fun _ => ensures_unless nofun
  · exact plain_name.after fun _ => plain_interfaces.after fun _ =>
      (plain_directives true).after fun _ => plain_fieldDefinitions.after fun _ =>
        ensures_unless nofun
  · exact plain_name.after fun _ => plain_interfaces.after fun _ =>
      (plain_directives true).after fun _ => plain_fieldDefinitions.after fun _ =>
        ensures_unless nofun
  · exact plain_name.after fun _ => (plain_directives true).after fun _ =>
      plain_members.after fun _ => ensures_unless nofun
  · exact plain_name.after fun _ => (plain_directives true).after fun _ =>
      plain_enumValues.after fun _ => ensures_unless nofun
  · exact plain_name.after fun _ => (plain_directives true).after fun _ =>
      plain_inputFields.after fun _ => ensures_unless nofun
  · exact .failure

lemma ensures_otherAfter (keyword : String) : Ensures Definition.Named (otherAfter keyword) := by
  unfold otherAfter
  split
  · exact (ensures_operationAfter _).bind fun o ho => .pure fun _ h => by cases h; exact ho
  · split
    · exact plain_fragmentDefinitionAfter.after fun _ => .pure nofun
    · exact plain_name.after fun _ => ensures_extensionAfter _
    · exact .failure

lemma ensures_definition : Ensures Definition.Named definition := by
  refine ensures_peek?.plain.after fun _ => .ite ?_ ?_
  · exact plain_selectionSet.after fun _ => .pure fun o ho => by
      cases ho
      exact nofun
  · refine plain_description.after fun about => plain_name.after fun keyword => ?_
    split
    · rename_i hreader
      exact ensures_typeSystemAfter? hreader
    · exact .ite .failure (ensures_otherAfter keyword)

lemma ensures_document : Ensures (fun ds => ∀ d ∈ ds, Definition.Named d) document := by
  refine ensures_fueled fun fuel => ?_
  induction fuel with
  | zero => exact .failure
  | succ fuel ih =>
    refine ensures_definition.bind fun d hd => ensures_peek?.plain.after fun _ => .ite ?_ ?_
    · exact .pure (List.forall_mem_singleton.mpr hd)
    · exact ih.bind fun ds hds => .pure (List.forall_mem_cons.mpr ⟨hd, hds⟩)

end Reader

/-- In a document that was read, operations have no names or names of the grammar. -/
theorem isName_of_read? {text : String} {document : Document} (h : read? text = some document)
    {o : Operation} (ho : .operation o ∈ document) {key : String} (hkey : o.name? = some key) :
    Token.isName key = true := by
  obtain ⟨ts, hts, h⟩ := Option.bind_eq_some_iff.mp h
  obtain ⟨⟨ds, rest⟩, hds, h⟩ := Option.bind_eq_some_iff.mp h
  cases h
  exact (Reader.ensures_document ts _ _ (Token.named_of_ofChars? hts) hds).1 _ ho o rfl key hkey

end ClientGen.Document
