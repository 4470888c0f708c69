import ClientGen.Proofs.Request.Selections
import ClientGen.Request.Projection
import Mathlib.Data.List.Induction

/-!
# Histories of projections

What was done to the nodes of a projection, and what each node holds after it. A node is made once
and changed in three ways: a field is selected, with or without a node below it; a fragment is
appended; arguments are passed to a field. Any node may be attached below any other.

* `Built` are the projections that can be built, each with its history.
* `Built.agrees`: every node holds what was done to it, and nothing else.
-/

namespace ClientGen.Request

/-! ## Events -/

/-- What is done to a node. -/
inductive NodeEvent where
  | selected (field : String) (below? : Option Nat)
  | narrowed (type : String) (below : Nat)
  | passed (field : String) (arguments : List (String × Value))

namespace NodeEvent

/-- The change to the node. -/
def apply : NodeEvent → Node → Node
  | selected field below?, n => { n with fields := Entries.put field below? n.fields }
  | narrowed _ below, n => { n with fragments := n.fragments ++ [below] }
  | passed field arguments, n =>
    { n with arguments := SelectionTree.recordArguments field arguments n.arguments }

/-- The field that is selected, with what is below it. -/
def selection? : NodeEvent → Option (String × Option Nat)
  | selected field below? => some (field, below?)
  | _ => none

/-- The fragment that is appended, with its type. -/
def narrowing? : NodeEvent → Option (String × Nat)
  | narrowed type below => some (type, below)
  | _ => none

/-- The arguments that are passed to a field. -/
def passing? : NodeEvent → Option (String × List (String × Value))
  | passed field arguments => some (field, arguments)
  | _ => none

/-- The nodes that the event attaches exist, and a fragment has its type. -/
def RefersTo (p : Projection) : NodeEvent → Prop
  | selected _ below? => ∀ below ∈ below?, below < p.nodes.length
  | narrowed type below => ∃ n, p.node? below = some n ∧ n.type? = some type
  | passed _ _ => True

end NodeEvent

/-- What was done to the nodes of a projection, in the order in which it was done. -/
abbrev History := List (Nat × NodeEvent)

/-- What was done to one node. -/
def History.at (h : History) (id : Nat) : List NodeEvent :=
  h.filterMap fun e => if e.1 = id then some e.2 else none

/-- The projections that can be built, each with its history. A node may be made with the name of
its type selected, as fragments are. -/
inductive Built : Projection → History → Prop where
  | empty : Built {} []
  | make {p : Projection} {h : History} (type? : Option String) (role : NodeRole) (typename : Bool)
      (hbuilt : Built p h) :
      Built (p.make type? role typename).1
        (h ++ if typename then [(p.nodes.length, .selected "__typename" none)] else [])
  | selectField {p : Projection} {h : History} (id : Nat) (field : String) (hbuilt : Built p h)
      (hid : id < p.nodes.length) :
      Built (p.selectField id field) (h ++ [(id, .selected field none)])
  | attach {p : Projection} {h : History} (id : Nat) (field : String) (below : Nat)
      (hbuilt : Built p h) (hid : id < p.nodes.length) (hbelow : below < p.nodes.length) :
      Built (p.attach id field below) (h ++ [(id, .selected field (some below))])
  | narrow {p : Projection} {h : History} (id below : Nat) {n : Node} {type : String}
      (hbuilt : Built p h) (hid : id < p.nodes.length) (hbelow : p.node? below = some n)
      (htype : n.type? = some type) :
      Built (p.narrow id below) (h ++ [(id, .narrowed type below)])
  | setArguments {p : Projection} {h : History} (id : Nat) (field : String)
      (arguments : List (String × Value)) (hbuilt : Built p h) (hid : id < p.nodes.length) :
      Built (p.setArguments id field arguments) (h ++ [(id, .passed field arguments)])

namespace Built

variable {p : Projection} {h : History}

lemma addRoot (type? : Option String) (hbuilt : Built p h) : Built (p.addRoot type?).1 h := by
  have hmade := hbuilt.make type? .root false
  rwa [if_neg Bool.false_ne_true, List.append_nil] at hmade

lemma addSub (id : Nat) (field : String) (type? : Option String) (hbuilt : Built p h)
    (hid : id < p.nodes.length) :
    Built (p.addSub id field type?).1 (h ++ [(id, .selected field (some p.nodes.length))]) := by
  have hmade := hbuilt.make type? (.sub id (p.rootOf id)) false
  rw [if_neg Bool.false_ne_true, List.append_nil] at hmade
  have hlength : (p.make type? (.sub id (p.rootOf id)) false).1.nodes.length
      = p.nodes.length + 1 := List.length_append
  exact hmade.attach id field p.nodes.length (by omega) (by omega)

lemma addFragment (id : Nat) (type : String) (typename : Bool) (hbuilt : Built p h)
    (hid : id < p.nodes.length) :
    Built (p.addFragment id type typename).1
      (h ++ (if typename then [(p.nodes.length, .selected "__typename" none)] else [])
        ++ [(id, .narrowed type p.nodes.length)]) := by
  have hmade := hbuilt.make type (.fragment id (p.rootOf id)) typename
  have hlength : (p.make type (.fragment id (p.rootOf id)) typename).1.nodes.length
      = p.nodes.length + 1 := List.length_append
  exact hmade.narrow id p.nodes.length (by omega) List.getElem?_concat_length rfl

end Built

/-! ## What a node holds -/

/-- A node after some events. -/
def Node.after (n : Node) (events : List NodeEvent) : Node :=
  events.foldl (fun n e => e.apply n) n

/-- A node to which nothing was done. -/
def Node.fresh (type? : Option String) (role : NodeRole) : Node :=
  { type?, role }

namespace Node

variable (type? : Option String) (role : NodeRole) (events : List NodeEvent)

lemma after_concat (n : Node) (e : NodeEvent) :
    n.after (events ++ [e]) = e.apply (n.after events) :=
  List.foldl_concat ..

lemma fields_after :
    ((fresh type? role).after events).fields
      = Entries.ofList (events.filterMap NodeEvent.selection?) := by
  induction events using List.reverseRecOn with
  | nil => rfl
  | append_singleton events e ih =>
    rw [after_concat, List.filterMap_append]
    cases e with
    | selected field below? =>
      show Entries.put field below? _ = _
      rw [ih]
      exact (Entries.ofList_concat _ (field, below?)).symm
    | narrowed type below => exact ih.trans (congrArg _ (List.append_nil _).symm)
    | passed field arguments => exact ih.trans (congrArg _ (List.append_nil _).symm)

lemma fragments_after :
    ((fresh type? role).after events).fragments
      = (events.filterMap NodeEvent.narrowing?).map (·.2) := by
  induction events using List.reverseRecOn with
  | nil => rfl
  | append_singleton events e ih =>
    rw [after_concat, List.filterMap_append]
    cases e with
    | selected field below? => exact ih.trans (congrArg _ (List.append_nil _).symm)
    | narrowed type below =>
      show _ ++ [below] = _
      rw [ih, List.map_append]
      rfl
    | passed field arguments => exact ih.trans (congrArg _ (List.append_nil _).symm)

end Node

/-- The arguments that a field has after some events: of those passed last, the ones that are
set. -/
def passedTo (events : List NodeEvent) (field : String) : List (String × Value) :=
  SelectionTree.passed
    ((Entries.get? field (events.filterMap NodeEvent.passing?).reverse).getD [])

lemma recordedArguments_recordArguments (field : String) (arguments : List (String × Value))
    (recorded : List (String × List (String × Value))) (key : String) :
    recordedArguments key (SelectionTree.recordArguments field arguments recorded)
      = if field = key then SelectionTree.passed arguments else recordedArguments key recorded := by
  unfold recordedArguments SelectionTree.recordArguments
  cases hpassed : SelectionTree.passed arguments with
  | nil =>
    rw [Entries.get?_erase]
    split <;> rfl
  | cons a rest =>
    rw [Entries.get?_put]
    split <;> rfl

lemma Node.recordedArguments_after (type? : Option String) (role : NodeRole)
    (events : List NodeEvent) (field : String) :
    recordedArguments field ((fresh type? role).after events).arguments
      = passedTo events field := by
  induction events using List.reverseRecOn with
  | nil => rfl
  | append_singleton events e ih =>
    unfold passedTo at ih ⊢
    rw [after_concat, List.filterMap_append, List.reverse_append]
    cases e with
    | selected key below? => exact ih
    | narrowed type below => exact ih
    | passed key arguments =>
      show recordedArguments field (SelectionTree.recordArguments key arguments _)
        = SelectionTree.passed ((Entries.get? field ((key, arguments) :: _)).getD [])
      rw [recordedArguments_recordArguments, ih, Entries.get?]
      split <;> rfl

/-! ## Projections and their histories -/

lemma History.at_append (h more : History) (id : Nat) : (h ++ more).at id = h.at id ++ more.at id :=
  List.filterMap_append

/-- The nodes of the projection hold what the history says. -/
structure Agrees (p : Projection) (h : History) : Prop where
  node : ∀ id < p.nodes.length, ∃ type? role,
    p.node? id = some ((Node.fresh type? role).after (h.at id))
  unused : ∀ id, p.nodes.length ≤ id → h.at id = []
  refers : ∀ e ∈ h, e.2.RefersTo p

namespace Agrees

variable {p : Projection} {h : History} {id : Nat} {e : NodeEvent}

lemma node?_modify (p : Projection) (id : Nat) (change : Node → Node) (other : Nat) :
    (p.modify id change).node? other
      = if id = other then (p.node? other).map change else p.node? other := by
  unfold Projection.node? Projection.modify
  rw [List.getElem?_modify]
  split <;> simp

lemma refersTo_modify (e' : NodeEvent) (href : e.RefersTo p) :
    e.RefersTo (p.modify id e'.apply) := by
  cases e with
  | selected field below? =>
    intro below hbelow
    exact (List.length_modify ..).symm ▸ href below hbelow
  | narrowed type below =>
    obtain ⟨n, hn, htype⟩ := href
    show ∃ n, (p.modify id e'.apply).node? below = some n ∧ n.type? = some type
    rw [node?_modify, hn]
    split
    · refine ⟨e'.apply n, rfl, ?_⟩
      rw [← htype]
      cases e' <;> rfl
    · exact ⟨n, rfl, htype⟩
  | passed field arguments => trivial

/-- A change of one node. -/
lemma modify (hagrees : Agrees p h) (hid : id < p.nodes.length) (href : e.RefersTo p) :
    Agrees (p.modify id e.apply) (h ++ [(id, e)]) := by
  have hlength : (p.modify id e.apply).nodes.length = p.nodes.length := List.length_modify ..
  constructor
  · intro other hother
    rw [hlength] at hother
    obtain ⟨type?, role, hnode⟩ := hagrees.node other hother
    refine ⟨type?, role, ?_⟩
    rw [node?_modify, History.at_append, hnode]
    by_cases heq : id = other
    · simp [History.at, heq, Node.after_concat]
    · simp [History.at, heq]
  · intro other hother
    rw [hlength] at hother
    have hne : id ≠ other := by omega
    rw [History.at_append, hagrees.unused other hother]
    simp [History.at, hne]
  · intro e' he'
    rcases List.mem_append.mp he' with he' | he'
    · exact refersTo_modify e (hagrees.refers e' he')
    · rw [List.mem_singleton.mp he']
      exact refersTo_modify e href

lemma modify_push (p : Projection) (n : Node) (change : Node → Node) :
    (p.push n).1.modify p.nodes.length change = (p.push (change n)).1 := by
  have hnodes : (p.nodes ++ [n]).modify p.nodes.length change = p.nodes ++ [change n] := by
    induction p.nodes with
    | nil => rfl
    | cons m ms ih => simp [ih]
  exact congrArg Projection.mk hnodes

lemma refersTo_push (n : Node) (href : e.RefersTo p) : e.RefersTo (p.push n).1 := by
  cases e with
  | selected field below? =>
    intro below hbelow
    have hlt := href below hbelow
    show below < (p.nodes ++ [n]).length
    rw [List.length_append]
    omega
  | narrowed type below =>
    obtain ⟨m, hm, htype⟩ := href
    refine ⟨m, ?_, htype⟩
    unfold Projection.node? Projection.push at *
    rw [List.getElem?_append_left (List.getElem?_eq_some_iff.mp hm).1]
    exact hm
  | passed field arguments => trivial

/-- A new node, to which nothing has been done. -/
lemma push (hagrees : Agrees p h) (type? : Option String) (role : NodeRole) :
    Agrees (p.push (.fresh type? role)).1 h := by
  have hlength : (p.push (.fresh type? role)).1.nodes.length = p.nodes.length + 1 :=
    List.length_append
  constructor
  · intro id hid
    rw [hlength] at hid
    by_cases hlast : id = p.nodes.length
    · refine ⟨type?, role, ?_⟩
      rw [hagrees.unused id (by omega), hlast]
      exact List.getElem?_concat_length
    · obtain ⟨type?', role', hnode⟩ := hagrees.node id (by omega)
      refine ⟨type?', role', ?_⟩
      rw [← hnode]
      exact List.getElem?_append_left (by omega)
  · intro id hid
    rw [hlength] at hid
    exact hagrees.unused id (by omega)
  · exact fun e he => refersTo_push _ (hagrees.refers e he)

end Agrees

/-- Every node holds what was done to it. -/
theorem Built.agrees {p : Projection} {h : History} (hbuilt : Built p h) : Agrees p h := by
  induction hbuilt with
  | empty => exact ⟨nofun, fun _ _ => rfl, nofun⟩
  | @make p h type? role typename _ ih =>
    have hpush := ih.push type? role
    cases typename with
    | false =>
      rw [if_neg Bool.false_ne_true, List.append_nil]
      exact hpush
    | true =>
      have hlast : p.nodes.length < (p.push (.fresh type? role)).1.nodes.length := by
        show p.nodes.length < (p.nodes ++ [_]).length
        rw [List.length_append]
        exact Nat.lt_succ_self _
      have hmodify := hpush.modify (e := .selected "__typename" none) hlast nofun
      rw [Agrees.modify_push] at hmodify
      exact hmodify
  | selectField id field _ hid ih => exact ih.modify (e := .selected field none) hid nofun
  | attach id field below _ hid hbelow ih =>
    refine ih.modify (e := .selected field (some below)) hid ?_
    rintro _ ⟨⟩
    exact hbelow
  | @narrow _ _ id below n type _ hid hbelow htype ih =>
    exact ih.modify (e := .narrowed type below) hid ⟨n, hbelow, htype⟩
  | setArguments id field arguments _ hid ih =>
    exact ih.modify (e := .passed field arguments) hid trivial

end ClientGen.Request
