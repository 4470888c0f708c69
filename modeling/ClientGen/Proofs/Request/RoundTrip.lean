import ClientGen.Proofs.Request.Mirrors
import ClientGen.Request.Query

/-!
# Requests read back

The text of a request is a document of one operation, and reading it gives back what was asked: the
kind of operation and its name, the root field with its alias and its arguments, and below it the
selections that mirror what was done to the projection.

* `read?_operationText` is what is read of an operation with some fields.
* `request_reads_back` is about a request and the history of its projection. Nothing else mirrors
  the history (`Agrees.mirrored_unique`).
* `CombinedRequest.read?_text` is about several requests that are sent as one.
-/

namespace ClientGen.Request

open Document (Phrase SelectionNode OperationKind)
open Document.Token (Spells isName)

/-! ## Operations -/

/-- A name of the grammar is not empty. -/
lemma given?_eq {name? : Option String} (h : ∀ name ∈ name?, isName name = true) :
    given? name? = name? := by
  cases name? with
  | none => rfl
  | some name =>
    have hne : name ≠ "" := by
      rintro rfl
      exact absurd (h "" rfl) (by decide)
    simp [given?, hne]

lemma spells_operationHeader (kind : OperationKind) {name? : Option String}
    (h : ∀ name ∈ name?, isName name = true) :
    Spells (operationHeader kind.keyword name?)
      (.name kind.keyword :: name?.toList.map Document.Token.name) := by
  have hkeyword : isName kind.keyword = true := by
    cases kind <;> decide
  unfold operationHeader
  rw [given?_eq h]
  cases name? with
  | none => exact .name hkeyword
  | some name =>
    exact (Spells.name hkeyword).separated (show " ".toList ≠ [] by decide) (by decide)
      (.name (h name rfl))

/-- An operation with some fields is read as that. -/
theorem read?_operationText (kind : OperationKind) {name? : Option String} {fields : List String}
    {nodes : List SelectionNode} (hname : ∀ name ∈ name?, isName name = true)
    (hfields : List.Forall₂ Phrase.selection.Means fields nodes) (hne : nodes ≠ []) :
    Document.read? (operationText kind.keyword name? fields)
      = some [.operation ⟨kind, name?, [], [], nodes⟩] := by
  have hset := Phrase.selectionSet_row hfields hne
  have hread := Document.read?_operation (spells_operationHeader kind hname) hset
  have htext : operationText kind.keyword name? fields = operationHeader kind.keyword name? ++ " "
      ++ ("\x7b " ++ " ".intercalate fields ++ " \x7d") := by
    unfold operationText
    rw [show " \x7b " = " " ++ "\x7b " from rfl]
    simp only [String.append_assoc]
  rw [htext]
  exact hread

/-! ## Requests -/

/-- The names in a query are names of the grammar, its operation is one of the three kinds, and its
arguments are plain. -/
structure Query.IsPlain (q : Query) (kind : OperationKind) : Prop where
  field : isName q.field = true
  operation : q.operation = kind.keyword
  name : ∀ name ∈ q.name?, isName name = true
  ownAlias : ∀ name ∈ q.alias?, isName name = true
  input : ArePlain q.input

/-- The root field of a query, with what is selected below it. -/
def Query.node (q : Query) (below : List SelectionNode) : SelectionNode :=
  .field q.alias? q.field (argumentMeanings q.input) [] below

namespace FieldRequest

variable {r : FieldRequest} {kind : OperationKind}

/-- What a request asks for: its root field, with what is selected below it. -/
def node (r : FieldRequest) : SelectionNode :=
  r.query.node ((r.selection?.map SelectionTree.meaning).getD [])

/-- What the root field of a request means. -/
theorem means_fieldText (hquery : r.query.IsPlain kind)
    (hselection : ∀ s ∈ r.selection?, s.IsPlain) :
    ∃ s, r.fieldText = .ok s ∧ Phrase.selection.Means s r.node := by
  obtain ⟨q, selection?⟩ := r
  obtain ⟨given, hgiven, hargs⟩ := isArguments_parenthesised hquery.input
  have halias : given? q.alias? = q.alias? := given?_eq hquery.ownAlias
  unfold fieldText
  cases selection? with
  | none =>
    have hfield := Phrase.selection_field q.alias? hquery.ownAlias hquery.field hargs
      Phrase.isBelow_nil
    rw [String.append_empty] at hfield
    refine ⟨Phrase.label q.alias? q.field ++ given, ?_, hfield⟩
    simp only [halias, hgiven]
    rfl
  | some s =>
    obtain ⟨inner, hinner, hmeans⟩ := s.means_text (hselection s rfl)
    have hfield := Phrase.selection_field q.alias? hquery.ownAlias hquery.field hargs
      (Phrase.isBelow_selectionSet hmeans)
    rw [← String.append_assoc] at hfield
    refine ⟨Phrase.label q.alias? q.field ++ given ++ " " ++ inner, ?_, hfield⟩
    simp only [halias, hgiven, hinner]
    rfl

/-- A request is read as an operation with its root field. -/
theorem read?_text (hquery : r.query.IsPlain kind) (hselection : ∀ s ∈ r.selection?, s.IsPlain) :
    ∃ text, r.text = .ok text ∧
      Document.read? text = some [.operation ⟨kind, r.query.name?, [], [], [r.node]⟩] := by
  obtain ⟨s, hs, hmeans⟩ := means_fieldText hquery hselection
  refine ⟨operationText kind.keyword r.query.name? [s], ?_,
    read?_operationText kind hquery.name (.cons hmeans .nil) (List.cons_ne_nil _ _)⟩
  rw [text, hs, hquery.operation]
  rfl

end FieldRequest

namespace CombinedRequest

/-- Requests are sent as one only if there are some and they are of one kind. -/
lemma eq_of_ofRequests {requests : List FieldRequest} {name? : Option String} {c : CombinedRequest}
    (hof : ofRequests requests name? = .ok c) :
    c = ⟨requests, c.operation, name?⟩ ∧ requests ≠ []
      ∧ ∀ r ∈ requests, r.query.operation = c.operation := by
  unfold ofRequests at hof
  split at hof
  · cases hof
  · rename_i operation hset
    cases hof
    refine ⟨rfl, ?_, fun r hr => ?_⟩
    · rintro rfl
      cases hset
    · have hmem : r.query.operation ∈ Text.sortedSet (requests.map (·.query.operation)) :=
        Text.mem_sortedSet.mpr (List.mem_map_of_mem hr)
      rw [hset] at hmem
      exact List.mem_singleton.mp hmem
  · cases hof

lemma means_fieldTexts {requests : List FieldRequest} {kind : OperationKind}
    (hplain : ∀ r ∈ requests, r.query.IsPlain kind ∧ ∀ s ∈ r.selection?, s.IsPlain) :
    ∃ ss, requests.mapM (·.fieldText) = .ok ss ∧
      List.Forall₂ Phrase.selection.Means ss (requests.map (·.node)) := by
  induction requests with
  | nil => exact ⟨[], rfl, .nil⟩
  | cons r rest ih =>
    obtain ⟨hquery, hselection⟩ := hplain r List.mem_cons_self
    obtain ⟨s, hs, hmeans⟩ := FieldRequest.means_fieldText hquery hselection
    obtain ⟨ss, hss, hmore⟩ := ih fun r hr => hplain r (List.mem_cons_of_mem _ hr)
    refine ⟨s :: ss, ?_, .cons hmeans hmore⟩
    rw [List.mapM_cons, hs, hss]
    rfl

/-- Requests that are sent as one are read as one operation, with the root fields of all in their
order. -/
theorem read?_text {requests : List FieldRequest} {name? : Option String} {c : CombinedRequest}
    {kind : OperationKind} (hof : ofRequests requests name? = .ok c)
    (hname : ∀ name ∈ name?, isName name = true)
    (hplain : ∀ r ∈ requests, r.query.IsPlain kind ∧ ∀ s ∈ r.selection?, s.IsPlain) :
    ∃ text, c.text = .ok text ∧ Document.read? text
      = some [.operation ⟨kind, name?, [], [], requests.map (·.node)⟩] := by
  obtain ⟨hc, hne, hsame⟩ := eq_of_ofRequests hof
  obtain ⟨r, rest, hcons⟩ := List.exists_cons_of_ne_nil hne
  have hr : r ∈ requests := hcons ▸ List.mem_cons_self
  have hoperation : c.operation = kind.keyword := (hsame r hr).symm.trans (hplain r hr).1.operation
  obtain ⟨ss, hss, hmeans⟩ := means_fieldTexts hplain
  refine ⟨operationText kind.keyword name? ss, ?_,
    read?_operationText kind hname hmeans fun hnil => hne (List.map_eq_nil_iff.mp hnil)⟩
  rw [hc, text, hss, hoperation]
  rfl

end CombinedRequest

/-- Every request has a text, which is read as one operation: the kind and the name of the query,
and its root field with alias, arguments and, where there is a projection, the selections that
mirror what was done to it. -/
theorem request_reads_back {p : Projection} {h : History} (hbuilt : Built p h)
    (hgrounded : p.IsGrounded) (hplain : ∀ e ∈ h, e.2.IsPlain) :
    ∃ below : Nat → List SelectionNode,
      (∀ id < p.nodes.length, below id = mirrored below (h.at id)) ∧
      ∀ (q : Query) (kind : OperationKind) (id? : Option Nat), q.IsPlain kind →
        (∀ id ∈ id?, id < p.nodes.length) →
        ∃ text, (FieldRequest.mk q (id?.map p.tree)).text = .ok text ∧
          Document.read? text = some [.operation ⟨kind, q.name?, [], [],
            [q.node ((id?.map below).getD [])]⟩] := by
  have hagrees := hbuilt.agrees
  refine ⟨fun id => (p.tree id).meaning, fun id hid => hagrees.meaning_tree hgrounded hid, ?_⟩
  intro q kind id? hquery hid
  have hselection : ∀ s ∈ id?.map p.tree, s.IsPlain := by
    intro s hs
    obtain ⟨id, hsome, rfl⟩ := Option.map_eq_some_iff.mp hs
    exact hagrees.isPlain_tree hgrounded hplain (hid id hsome)
  obtain ⟨text, htext, hread⟩ :=
    FieldRequest.read?_text (r := ⟨q, id?.map p.tree⟩) hquery hselection
  refine ⟨text, htext, hread.trans ?_⟩
  rw [FieldRequest.node, Option.map_map]
  rfl

/-- Films with their titles and the first actors, and with the genre of short ones. -/
def filmProjection : Projection :=
  let (p, film) := ({} : Projection).addRoot "Film"
  let p := p.selectField film "title"
  let (p, actor) := p.addSub film "actors" "Actor"
  let p := (p.selectField actor "name").setArguments film "actors" [("limit", .int 3)]
  let (p, short) := p.addFragment film "Short" true
  p.selectField short "genre"

/-- What was done to the nodes of `filmProjection`. -/
def filmHistory : History :=
  [(0, .selected "title" none), (0, .selected "actors" (some 1)), (1, .selected "name" none),
    (0, .passed "actors" [("limit", .int 3)]), (2, .selected "__typename" none),
    (0, .narrowed "Short" 2), (2, .selected "genre" none)]

/-- The query for films under an alias, by their title. -/
def filmQuery : Query :=
  { field := "films"
    name? := "TopFilms"
    alias? := "top"
    input := [("title", .text "say \"hi\""),
      ("genres", .sequence .list [.enum "drama" (.text "DRAMA")])] }

lemma built_filmProjection : Built filmProjection filmHistory := by
  have hfilm := (Built.empty.addRoot "Film").selectField 0 "title" (by decide)
  have hactors := (hfilm.addSub 0 "actors" "Actor" (by decide)).selectField 1 "name" (by decide)
  have hlimit := hactors.setArguments 0 "actors" [("limit", .int 3)] (by decide)
  exact (hlimit.addFragment 0 "Short" true (by decide)).selectField 2 "genre" (by decide)

theorem request_reads_back_film :
    Built filmProjection filmHistory ∧ filmProjection.IsGrounded ∧
      (∀ e ∈ filmHistory, e.2.IsPlain) ∧ filmQuery.IsPlain .query ∧
      ∃ text, (FieldRequest.mk filmQuery (some (filmProjection.tree 0))).text = .ok text ∧
        Document.read? text = some [.operation ⟨.query, some "TopFilms", [], [],
          [.field (some "top") "films"
            [⟨"title", .string "say \"hi\""⟩, ⟨"genres", .list [.enum "DRAMA"]⟩] []
            [.field none "title" [] [] [],
              .field none "actors" [⟨"limit", .int 3⟩] [] [.field none "name" [] [] []],
              .inlineFragment (some "Short") []
                [.field none "__typename" [] [] [], .field none "genre" [] [] []]]]⟩] := by
  have hgrounded : filmProjection.IsGrounded :=
    built_filmProjection.agrees.isGrounded (by decide)
  have hplain : ∀ e ∈ filmHistory, e.2.IsPlain := by decide
  have hquery : filmQuery.IsPlain .query := by constructor <;> decide
  obtain ⟨below, hbelow, hread⟩ := request_reads_back built_filmProjection hgrounded hplain
  obtain ⟨text, htext, hdocument⟩ := hread filmQuery .query (some 0) hquery (by decide)
  refine ⟨built_filmProjection, hgrounded, hplain, hquery, text, htext, ?_⟩
  have hactors : below 1 = [.field none "name" [] [] []] := hbelow 1 (by decide)
  have hshort : below 2 = [.field none "__typename" [] [] [], .field none "genre" [] [] []] :=
    hbelow 2 (by decide)
  have hfilm : below 0 = [.field none "title" [] [] [],
      .field none "actors" [⟨"limit", .int 3⟩] [] (below 1),
      .inlineFragment (some "Short") [] (below 2)] := hbelow 0 (by decide)
  rw [hactors, hshort] at hfilm
  rw [hdocument, Option.map_some, Option.getD_some, hfilm]
  rfl

end ClientGen.Request
