import ClientGen.Document.Reader
import ClientGen.Example.Selection

/-!
# Example operations

The operations of an executable document, with their selection sets as `Selection` trees. A
spread fragment is written out as a fragment on its type; a fragment that is already being
written out is not written out inside itself, so recursive fragments come to an end.

Main definitions: `convert`, the fields and fragments of a selection set;
`ExampleDocument.ofDocument`, all operations of a document.
-/

namespace ClientGen

open ClientGen.Document

/-! ## Fragment definitions -/

/-- The definition of a fragment; of two definitions of one name the later counts. -/
def findFragment? (definitions : List Fragment) (name : String) : Option Fragment :=
  definitions.reverse.find? (·.name = name)

theorem findFragment?_mem {definitions : List Fragment} {name : String} {f : Fragment}
    (h : findFragment? definitions name = some f) : f ∈ definitions ∧ f.name = name := by
  refine ⟨List.mem_reverse.mp (List.mem_of_find?_eq_some h), ?_⟩
  simpa using List.find?_some h

/-- The number of definitions that are not being written out. -/
def openFragments (definitions : List Fragment) (spreading : List String) : Nat :=
  (definitions.filter (·.name ∉ spreading)).length

theorem openFragments_lt {definitions : List Fragment} {spreading : List String}
    {name : String} {f : Fragment} (h : findFragment? definitions name = some f)
    (hn : name ∉ spreading) :
    openFragments definitions (name :: spreading) < openFragments definitions spreading := by
  obtain ⟨hmem, hname⟩ := findFragment?_mem h
  have hcut : definitions.filter (·.name ∉ name :: spreading)
      = (definitions.filter (·.name ∉ spreading)).filter (·.name ≠ name) := by
    rw [List.filter_filter]
    refine List.filter_congr fun d _ => ?_
    simp [not_or]
  rw [openFragments, openFragments, hcut]
  refine List.length_filter_lt_length_iff_exists.mpr ⟨f, ?_, ?_⟩
  · exact List.mem_filter.mpr ⟨hmem, by simpa [hname] using hn⟩
  · simp [hname]

/-! ## Conversion -/

/-- The fields and the fragments of a selection set. `spreading` lists the fragments that are
being written out. -/
def convert (definitions : List Fragment) (spreading : List String) :
    List SelectionNode → List Selection × List Selection
  | [] => ([], [])
  | .field _ name _ _ selections :: rest =>
    let inner := convert definitions spreading selections
    let others := convert definitions spreading rest
    (.mk name inner.1 inner.2 :: others.1, others.2)
  | .inlineFragment none _ selections :: rest =>
    let inner := convert definitions spreading selections
    let others := convert definitions spreading rest
    (inner.1 ++ others.1, inner.2 ++ others.2)
  | .inlineFragment (some type) _ selections :: rest =>
    let inner := convert definitions spreading selections
    let others := convert definitions spreading rest
    (others.1, .mk type inner.1 inner.2 :: others.2)
  | .spread name _ :: rest =>
    let others := convert definitions spreading rest
    match _found : findFragment? definitions name with
    | none => others
    | some f =>
      if _new : name ∈ spreading then others
      else
        let inner := convert definitions (name :: spreading) f.selections
        (others.1, .mk f.typeCondition inner.1 inner.2 :: others.2)
termination_by nodes => (openFragments definitions spreading, sizeOf nodes)
decreasing_by
  all_goals first
    | exact Prod.Lex.left _ _ (openFragments_lt _found _new)
    | (apply Prod.Lex.right; simp_wf <;> omega)

/-! ## Documents -/

/-- One operation of an example document. -/
structure ExampleOperation where
  name? : Option String
  kind : OperationKind
  selection : Selection
deriving Repr

/-- The operations of a document, in order. -/
abbrev ExampleDocument := List ExampleOperation

namespace ExampleDocument

/-- The fragments that a document defines. -/
def fragmentsOf (d : Document) : List Fragment :=
  d.filterMap fun
    | .fragment f => some f
    | _ => none

/-- The operations that a document defines. -/
def operationsOf (d : Document) : List Operation :=
  d.filterMap fun
    | .operation o => some o
    | _ => none

/-- An operation, whose selection takes its name, or that of its kind if it has none. -/
def operation (definitions : List Fragment) (o : Operation) : ExampleOperation :=
  let inner := convert definitions [] o.selections
  ⟨o.name?, o.kind, .mk (o.name?.getD o.kind.keyword) inner.1 inner.2⟩

/-- The example operations of a document. -/
def ofDocument (d : Document) : ExampleDocument :=
  (operationsOf d).map (operation (fragmentsOf d))

/-- The example operations that a text denotes, if it is a document. -/
def read? (text : String) : Option ExampleDocument :=
  (Document.read? text).map ofDocument

/-- The first operation of a kind. -/
def find? (d : ExampleDocument) (kind : OperationKind) : Option ExampleOperation :=
  List.find? (·.kind = kind) d

end ExampleDocument

/-! ## Paths -/

/-- A step down a selection. -/
inductive SelectionStep where
  | child (field : String) (type? : Option String)
  | fragment (type : String)
deriving Repr, DecidableEq

/-- Where a step leads. -/
def SelectionStep.follow? (s : Selection) : SelectionStep → Option Selection
  | .child field type? => s.child? field type?
  | .fragment type => s.fragment? type

/-- Where a path leads, if all of its steps are there. -/
def Selection.follow? (s : Selection) (path : List SelectionStep) : Option Selection :=
  path.foldlM SelectionStep.follow? s

end ClientGen
