import ClientGen.Proofs.Example.Expansion
import ClientGen.Proofs.Example.Positions
import Mathlib.Data.List.Forall2

/-!
# Documents without named fragments

In a document none of whose fragments is recursive, each spread can be replaced by an inline
fragment with what the definition holds, spreads in it included, and each inline fragment without a
type condition by its entries. What is left has fields and inline fragments on types only, and its
operations are converted to the same selections.

* `SelectionNode.Inlined` relates a selection set to the one without spreads, `Document.Inlined` a
  document to such a one: there is at most one (`Inlined.unique`), and one if no fragment is
  recursive (`exists_inlined_nodes`).
* `convert_inlined` is the one fact about the conversion, by induction on how the selection set was
  rewritten: no fragment is met within itself, so no entry is cut.
* `expansion_of_document` says how the fragments of any document are expanded, and that those of a
  document without recursive ones may as well be written in place.
-/

namespace ClientGen

open ClientGen.Document
open ClientGen.Document.SelectionNode (entries mem_entries)
open ClientGen.ExampleDocument (fragmentsOf operationsOf)
open Relation (ReflTransGen)

variable {definitions : List Fragment} {spreading : List String} {nodes : List SelectionNode}

/-! ## Rewriting -/

/-- A selection set, and the one in which each spread is replaced by an inline fragment with what
the definition holds, or left out if there is none, and each inline fragment without a type
condition by what it holds. -/
inductive Document.SelectionNode.Inlined (definitions : List Fragment) :
    List SelectionNode → List SelectionNode → Prop
  | nil : Inlined definitions [] []
  | field {alias? : Option String} {name : String} {arguments : List Argument}
      {directives : List Directive} {selections selections' rest rest' : List SelectionNode}
      (hbelow : Inlined definitions selections selections')
      (hrest : Inlined definitions rest rest') :
      Inlined definitions (.field alias? name arguments directives selections :: rest)
        (.field alias? name arguments directives selections' :: rest')
  | untyped {directives : List Directive}
      {selections selections' rest rest' : List SelectionNode}
      (hbelow : Inlined definitions selections selections')
      (hrest : Inlined definitions rest rest') :
      Inlined definitions (.inlineFragment none directives selections :: rest)
        (selections' ++ rest')
  | inline {type : String} {directives : List Directive}
      {selections selections' rest rest' : List SelectionNode}
      (hbelow : Inlined definitions selections selections')
      (hrest : Inlined definitions rest rest') :
      Inlined definitions (.inlineFragment (some type) directives selections :: rest)
        (.inlineFragment (some type) directives selections' :: rest')
  | undefined {name : String} {directives : List Directive} {rest rest' : List SelectionNode}
      (hdefinition : findFragment? definitions name = none)
      (hrest : Inlined definitions rest rest') :
      Inlined definitions (.spread name directives :: rest) rest'
  | spread {name : String} {directives : List Directive} {f : Fragment}
      {selections' rest rest' : List SelectionNode}
      (hdefinition : findFragment? definitions name = some f)
      (hbelow : Inlined definitions f.selections selections')
      (hrest : Inlined definitions rest rest') :
      Inlined definitions (.spread name directives :: rest)
        (.inlineFragment (some f.typeCondition) directives selections' :: rest')

open Document.SelectionNode (Inlined)

/-- What is written in place of the spreads is determined. -/
lemma Document.SelectionNode.Inlined.unique {nodes' nodes'' : List SelectionNode}
    (h : Inlined definitions nodes nodes') (h' : Inlined definitions nodes nodes'') :
    nodes' = nodes'' := by
  induction h generalizing nodes'' with
  | nil => cases h'; rfl
  | field _ _ ihBelow ihRest => cases h' with
    | field hbelow hrest => rw [ihBelow hbelow, ihRest hrest]
  | untyped _ _ ihBelow ihRest => cases h' with
    | untyped hbelow hrest => rw [ihBelow hbelow, ihRest hrest]
  | inline _ _ ihBelow ihRest => cases h' with
    | inline hbelow hrest => rw [ihBelow hbelow, ihRest hrest]
  | undefined hnone _ ihRest => cases h' with
    | undefined _ hrest => exact ihRest hrest
    | spread hdefinition _ _ => cases hnone.symm.trans hdefinition
  | spread hdefinition _ _ ihBelow ihRest => cases h' with
    | undefined hnone _ => cases hnone.symm.trans hdefinition
    | spread hdefinition' hbelow hrest =>
      cases hdefinition.symm.trans hdefinition'
      rw [ihBelow hbelow, ihRest hrest]

/-! ## Entries and what they mention -/

namespace Document.SelectionNode

lemma entries_append (nodes others : List SelectionNode) :
    entries (nodes ++ others) = entries nodes ++ entries others := by
  fun_induction entries nodes with
  | case1 => rfl
  | case2 directives selections rest ih ihRest =>
    rw [List.cons_append, entries, ihRest, List.append_assoc]
  | case3 alias? name arguments directives selections rest ih =>
    rw [List.cons_append, entries, ih, List.cons_append]
  | case4 type directives selections rest ih =>
    rw [List.cons_append, entries, ih, List.cons_append]
  | case5 name directives rest ih => rw [List.cons_append, entries, ih, List.cons_append]

lemma entries_subset_cons (node : SelectionNode) (rest : List SelectionNode) :
    entries rest ⊆ entries (node :: rest) := by
  rw [← List.singleton_append, entries_append]
  exact List.subset_append_right _ _

lemma entries_subset_untyped {directives : List Directive} {selections rest : List SelectionNode} :
    entries selections ⊆ entries (.inlineFragment none directives selections :: rest) := by
  rw [entries]
  exact List.subset_append_left _ _

end Document.SelectionNode

open Document.SelectionNode (entries_append entries_subset_cons entries_subset_untyped)

/-- Of two selection sets, one after the other, each adds its fields and fragments. -/
lemma convert_append (nodes others : List SelectionNode) :
    convert definitions spreading (nodes ++ others)
      = ((convert definitions spreading nodes).1 ++ (convert definitions spreading others).1,
        (convert definitions spreading nodes).2 ++ (convert definitions spreading others).2) := by
  simp only [convert_eq, entries_append, List.filterMap_append]

/-- What some of the entries mention all of them mention. -/
lemma Mentions.mono {name : String} {others : List SelectionNode}
    (hsubset : entries nodes ⊆ entries others) (h : Mentions name nodes) :
    Mentions name others := by
  cases h with
  | spread h => exact .spread (hsubset h)
  | field h hbelow => exact .field (hsubset h) hbelow
  | inline h hbelow => exact .inline (hsubset h) hbelow

namespace MentionsReached

lemma mono {others : List SelectionNode} (hsubset : entries others ⊆ entries nodes)
    (h : MentionsReached definitions spreading nodes) :
    MentionsReached definitions spreading others :=
  fun outer houter name hname => h outer houter name (hname.mono hsubset)

variable {node : SelectionNode} {rest selections : List SelectionNode}

lemma tail (h : MentionsReached definitions spreading (node :: rest)) :
    MentionsReached definitions spreading rest :=
  h.mono (entries_subset_cons node rest)

lemma field {alias? : Option String} {name : String} {arguments : List Argument}
    {directives : List Directive}
    (h : MentionsReached definitions spreading
      (.field alias? name arguments directives selections :: rest)) :
    MentionsReached definitions spreading selections := fun outer houter name hname =>
  h outer houter name (.field (mem_entries List.mem_cons_self nofun) hname)

lemma inline {type? : Option String} {directives : List Directive}
    (h : MentionsReached definitions spreading
      (.inlineFragment type? directives selections :: rest)) :
    MentionsReached definitions spreading selections := by
  cases type? with
  | none => exact h.mono entries_subset_untyped
  | some type =>
    exact fun outer houter name hname =>
      h outer houter name (.inline (mem_entries List.mem_cons_self nofun) hname)

end MentionsReached

lemma mem_entries_spread {name : String} {directives : List Directive}
    {rest : List SelectionNode} :
    .spread name directives ∈ entries (.spread name directives :: rest) :=
  mem_entries List.mem_cons_self nofun

/-! ## Documents without recursive fragments -/

section Acyclic

variable (hacyclic : ∀ name, ¬ IsRecursive definitions name)

include hacyclic

lemma exists_inlined_nodes (h : MentionsReached definitions spreading nodes) :
    ∃ nodes', Inlined definitions nodes nodes' := by
  induction spreading, nodes using convert.induct definitions with
  | case1 => exact ⟨[], .nil⟩
  | case2 spreading alias? name arguments directives selections rest ihBelow ihRest =>
    obtain ⟨_, hbelow⟩ := ihBelow h.field
    obtain ⟨_, hrest⟩ := ihRest h.tail
    exact ⟨_, .field hbelow hrest⟩
  | case3 spreading directives selections rest ihBelow ihRest =>
    obtain ⟨_, hbelow⟩ := ihBelow h.inline
    obtain ⟨_, hrest⟩ := ihRest h.tail
    exact ⟨_, .untyped hbelow hrest⟩
  | case4 spreading type directives selections rest ihBelow ihRest =>
    obtain ⟨_, hbelow⟩ := ihBelow h.inline
    obtain ⟨_, hrest⟩ := ihRest h.tail
    exact ⟨_, .inline hbelow hrest⟩
  | case5 spreading name directives rest hnone ihRest =>
    obtain ⟨_, hrest⟩ := ihRest h.tail
    exact ⟨_, .undefined hnone hrest⟩
  | case6 spreading name directives rest f hdefinition hcut ihRest =>
    -- only a recursive fragment is met within itself, and there is none
    exact absurd hcut (h.not_mem_spreading mem_entries_spread (hacyclic name))
  | case7 spreading name directives rest f hdefinition hnew ihRest ihBelow =>
    obtain ⟨_, hbelow⟩ := ihBelow (h.spread mem_entries_spread hdefinition)
    obtain ⟨_, hrest⟩ := ihRest h.tail
    exact ⟨_, .spread hdefinition hbelow hrest⟩

/-- Without spreads a selection set is converted to the same, whatever fragments are defined and
are being written out. -/
lemma convert_inlined {nodes' : List SelectionNode} (h : Inlined definitions nodes nodes')
    (hreached : MentionsReached definitions spreading nodes) (others : List Fragment)
    (outside : List String) :
    convert definitions spreading nodes = convert others outside nodes' := by
  induction h generalizing spreading with
  | nil => rw [convert, convert]
  | field _ _ ihBelow ihRest =>
    rw [convert, convert, ihBelow hreached.field, ihRest hreached.tail]
  | untyped _ _ ihBelow ihRest =>
    rw [convert, convert_append, ihBelow hreached.inline, ihRest hreached.tail]
  | inline _ _ ihBelow ihRest =>
    rw [convert, convert, ihBelow hreached.inline, ihRest hreached.tail]
  | undefined hnone _ ihRest => rw [convert_spread_of_none hnone, ihRest hreached.tail]
  | spread hdefinition _ _ ihBelow ihRest =>
    have hnew := hreached.not_mem_spreading mem_entries_spread (hacyclic _)
    rw [convert_spread_of_some hdefinition hnew, convert, ihRest hreached.tail,
      ihBelow (hreached.spread mem_entries_spread hdefinition)]

end Acyclic

/-! ## Documents -/

/-- A definition, and the one with its selection set rewritten, if it has one. -/
inductive Document.Definition.Inlined (definitions : List Fragment) :
    Definition → Definition → Prop
  | operation {o : Operation} {selections : List SelectionNode}
      (h : SelectionNode.Inlined definitions o.selections selections) :
      Inlined definitions (.operation o) (.operation { o with selections })
  | fragment {f : Fragment} {selections : List SelectionNode}
      (h : SelectionNode.Inlined definitions f.selections selections) :
      Inlined definitions (.fragment f) (.fragment { f with selections })
  | other {definition : Definition} (hoperation : ∀ o, definition ≠ .operation o)
      (hfragment : ∀ f, definition ≠ .fragment f) : Inlined definitions definition definition

/-- A document, and the one with all of its selection sets rewritten. -/
def Document.Inlined (d d' : Document) : Prop :=
  List.Forall₂ (Definition.Inlined (fragmentsOf d)) d d'

lemma Document.Definition.Inlined.unique :
    Relator.RightUnique (Definition.Inlined definitions) := by
  intro definition definition' definition'' h h'
  cases h with
  | operation h => cases h' with
    | operation h' => rw [h.unique h']
    | other hoperation => exact absurd rfl (hoperation _)
  | fragment h => cases h' with
    | fragment h' => rw [h.unique h']
    | other _ hfragment => exact absurd rfl (hfragment _)
  | other hoperation hfragment => cases h' with
    | operation => exact absurd rfl (hoperation _)
    | fragment => exact absurd rfl (hfragment _)
    | other => rfl

section Acyclic

variable (hacyclic : ∀ name, ¬ IsRecursive definitions name)

include hacyclic

lemma exists_inlined_definition (definition : Definition) :
    ∃ definition', Definition.Inlined definitions definition definition' := by
  cases definition with
  | operation o =>
    obtain ⟨_, h⟩ : ∃ selections, SelectionNode.Inlined definitions o.selections selections :=
      exists_inlined_nodes hacyclic .nil
    exact ⟨_, .operation h⟩
  | fragment f =>
    obtain ⟨_, h⟩ : ∃ selections, SelectionNode.Inlined definitions f.selections selections :=
      exists_inlined_nodes hacyclic .nil
    exact ⟨_, .fragment h⟩
  | schema | type | typeExtension | directive | otherExtension => exact ⟨_, .other nofun nofun⟩

lemma exists_forall₂_inlined (d : Document) :
    ∃ d', List.Forall₂ (Definition.Inlined definitions) d d' := by
  induction d with
  | nil => exact ⟨[], .nil⟩
  | cons definition d ih =>
    obtain ⟨_, h⟩ := exists_inlined_definition hacyclic definition
    obtain ⟨_, hd⟩ := ih
    exact ⟨_, .cons h hd⟩

/-- The operations of a document are converted to the same selections when they are rewritten. -/
lemma map_operation_inlined {d d' : Document} (others : List Fragment)
    (h : List.Forall₂ (Definition.Inlined definitions) d d') :
    (operationsOf d').map (ExampleDocument.operation others)
      = (operationsOf d).map (ExampleDocument.operation definitions) := by
  induction h with
  | nil => rfl
  | @cons definition definition' d d' h _ ih =>
    cases h with
    | @operation o selections h =>
      have hconvert : convert definitions [] o.selections = convert others [] selections :=
        convert_inlined hacyclic h .nil others []
      have hoperation : ExampleDocument.operation others { o with selections }
          = ExampleDocument.operation definitions o := by
        simp only [ExampleDocument.operation, hconvert]
      exact congrArg₂ List.cons hoperation ih
    | fragment h => exact ih
    | other hoperation _ =>
      cases definition with
      | operation o => exact absurd rfl (hoperation o)
      | fragment | schema | type | typeExtension | directive | otherExtension => exact ih

end Acyclic

/-! ## Expansion -/

/-- To expand the fragments of a document comes to an end, also where they are recursive: the
conversion of a selection set asks for those nested in it only, each of these in its turn, without
an infinite chain, and putting them together level by level has one result. From an operation on, no
fragment is entered within itself; there it counts as one that is not defined. If no fragment is
recursive, the document can be written without spreads and without inline fragments that have no
type condition in one way, and this leaves each operation the same selection. -/
theorem expansion_of_document (d : Document) :
    ((∀ c, Conversion.Ends (fragmentsOf d) c)
        ∧ (∀ inner other c,
            (∀ c', Conversion.Nested (fragmentsOf d) c c' → inner c' = other c') →
              Conversion.level (fragmentsOf d) inner c = Conversion.level (fragmentsOf d) other c)
        ∧ ∀ inner, (∀ c, inner c = Conversion.level (fragmentsOf d) inner c)
            ↔ ∀ c, inner c = c.result (fragmentsOf d))
      ∧ ((∀ o ∈ operationsOf d, ∀ c,
            ReflTransGen (Conversion.Nested (fragmentsOf d)) ⟨[], o.selections⟩ c →
              c.spreading.Nodup)
        ∧ ∀ name spreading nodes,
            convert (fragmentsOf d) (name :: spreading) nodes
              = convert ((fragmentsOf d).filter (·.name ≠ name)) spreading nodes)
      ∧ ((∀ name, ¬ IsRecursive (fragmentsOf d) name) →
          (∃! d', d.Inlined d') ∧ ∀ d', d.Inlined d' →
            ExampleDocument.ofDocument d' = ExampleDocument.ofDocument d) := by
  have hlevel : ∀ inner, (∀ c, inner c = Conversion.level (fragmentsOf d) inner c)
      ↔ ∀ c, inner c = c.result (fragmentsOf d) := by
    intro inner
    constructor
    · exact Conversion.eq_result_of_level
    · intro h c
      rw [h c, Conversion.result_eq_level]
      exact Conversion.level_congr fun c' _ => (h c').symm
  refine ⟨⟨Conversion.ends _, fun _ _ _ => Conversion.level_congr, hlevel⟩,
    ⟨fun _ _ _ => Conversion.nodup_spreading, convert_cons_spreading _⟩, fun hacyclic => ⟨?_, ?_⟩⟩
  · obtain ⟨d', h⟩ := exists_forall₂_inlined hacyclic d
    exact ⟨d', h, fun d'' h' => Definition.Inlined.unique.forall₂ h' h⟩
  · exact fun d' h => map_operation_inlined hacyclic (fragmentsOf d') h

/-- The example `query { a { ... { ...F } ...H } }` with the fragments `F` and `G` from before. -/
def spreadExample : Document :=
  .operation ⟨.query, none, [], [],
      [.field none "a" [] [] [.inlineFragment none [] [.spread "F" []], .spread "H" []]]⟩
    :: splitExample.tail

/-- The example `query { a { ... on T { x ... on T { y } } } }`. -/
def spreadExampleInlined : Document :=
  [.operation ⟨.query, none, [], [],
      [.field none "a" [] []
        [.inlineFragment (some "T") []
          [.field none "x" [] [] [],
            .inlineFragment (some "T") [] [.field none "y" [] [] []]]]]⟩,
    .fragment ⟨"F", "T", [],
      [.field none "x" [] [] [], .inlineFragment (some "T") [] [.field none "y" [] [] []]]⟩,
    .fragment ⟨"G", "T", [], [.field none "y" [] [] []]⟩]

/-- The one spread is replaced, the other one is left out, and the selection of the operation is the
same. -/
theorem expansion_of_document_spread :
    (∀ name, ¬ IsRecursive (fragmentsOf spreadExample) name)
      ∧ spreadExample.Inlined spreadExampleInlined
      ∧ ExampleDocument.ofDocument spreadExampleInlined
          = ExampleDocument.ofDocument spreadExample := by
  have hdefinitionG : findFragment? (fragmentsOf spreadExample) "G"
      = some ⟨"G", "T", [], [.field none "y" [] [] []]⟩ := rfl
  have hdefinitionF : findFragment? (fragmentsOf spreadExample) "F"
      = some ⟨"F", "T", [], [.field none "x" [] [] [], .spread "G" []]⟩ := rfl
  have hG : Inlined (fragmentsOf spreadExample) [.field none "y" [] [] []]
      [.field none "y" [] [] []] := .field .nil .nil
  have hF : Inlined (fragmentsOf spreadExample) [.field none "x" [] [] [], .spread "G" []]
      [.field none "x" [] [] [], .inlineFragment (some "T") [] [.field none "y" [] [] []]] :=
    .field .nil (.spread hdefinitionG hG .nil)
  have ha : Inlined (fragmentsOf spreadExample)
      [.inlineFragment none [] [.spread "F" []], .spread "H" []]
      [.inlineFragment (some "T") []
        [.field none "x" [] [] [], .inlineFragment (some "T") [] [.field none "y" [] [] []]]] :=
    .untyped (.spread hdefinitionF hF .nil) (.undefined rfl .nil)
  have hinlined : spreadExample.Inlined spreadExampleInlined :=
    .cons (.operation (.field ha .nil)) (.cons (.fragment hF) (.cons (.fragment hG) .nil))
  have hacyclic := not_isRecursive_splitExample
  exact ⟨hacyclic, hinlined, ((expansion_of_document spreadExample).2.2 hacyclic).2 _ hinlined⟩

end ClientGen
