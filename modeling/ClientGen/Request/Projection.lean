import ClientGen.Request.Selection

/-!
# Projections under construction

A client builds a selection step by step, from a root down, and may come back to any node that
it has made. A `Projection` holds all nodes that were made, each with its place among them; a
node knows its parent and its root, and the tree below it is what a request sends.

Nodes are only ever attached below earlier nodes, so a node comes after its parent.
-/

namespace ClientGen.Request

/-- Where a node stands in its tree. -/
inductive NodeRole where
  | root
  | sub (parent root : Nat)
  | fragment (parent root : Nat)
deriving Repr, DecidableEq, Inhabited

/-- A node of a projection. Nodes below it are named by their places. -/
structure Node where
  type? : Option String
  role : NodeRole
  fields : List (String × Option Nat) := []
  fragments : List Nat := []
  arguments : List (String × List (String × Value)) := []
deriving Inhabited

/-- All nodes of some projections, in the order in which they were made. -/
structure Projection where
  nodes : List Node := []

/-- A root has neither a parent nor another root. -/
inductive NodeError where
  | noParent
  | noRoot
deriving Repr, DecidableEq

/-- The wording of the error. -/
def NodeError.message : NodeError → String
  | .noParent => "'BaseProjectionNode' object has no attribute 'get_parent'"
  | .noRoot => "'BaseProjectionNode' object has no attribute 'get_root'"

namespace Projection

/-! ## Nodes -/

/-- The node at a place. -/
def node? (p : Projection) (id : Nat) : Option Node :=
  p.nodes[id]?

/-- Changes the node at a place. -/
def modify (p : Projection) (id : Nat) (change : Node → Node) : Projection :=
  ⟨p.nodes.modify id change⟩

/-- Adds a node, and says at which place. -/
def push (p : Projection) (n : Node) : Projection × Nat :=
  (⟨p.nodes ++ [n]⟩, p.nodes.length)

/-- The parent of a node. -/
def parent (n : Node) : Except NodeError Nat :=
  match n.role with
  | .root => .error .noParent
  | .sub parent _ => .ok parent
  | .fragment parent _ => .ok parent

/-- The root that a node was given. -/
def root (n : Node) : Except NodeError Nat :=
  match n.role with
  | .root => .error .noRoot
  | .sub _ root => .ok root
  | .fragment _ root => .ok root

/-- The root of the tree of a node, which of a root is the root itself. -/
def rootOf (p : Projection) (id : Nat) : Nat :=
  match p.node? id with
  | none => id
  | some n => (root n).toOption.getD id

/-! ## Steps -/

/-- Selects a field without anything below it. -/
def selectField (p : Projection) (id : Nat) (field : String) : Projection :=
  p.modify id fun n => { n with fields := Entries.put field none n.fields }

/-- Selects a field with a node below it. -/
def attach (p : Projection) (id : Nat) (field : String) (below : Nat) : Projection :=
  p.modify id fun n => { n with fields := Entries.put field (some below) n.fields }

/-- Appends a fragment. -/
def narrow (p : Projection) (id below : Nat) : Projection :=
  p.modify id fun n => { n with fragments := n.fragments ++ [below] }

/-- Makes a node, in which the name of the type may be selected from the start. -/
def make (p : Projection) (type? : Option String) (role : NodeRole) (typename : Bool) :
    Projection × Nat :=
  p.push { type?, role, fields := if typename then [("__typename", none)] else [] }

/-- Makes a root. -/
def addRoot (p : Projection) (type? : Option String) : Projection × Nat :=
  p.make type? .root false

/-- Selects a field with a new node below it. -/
def addSub (p : Projection) (id : Nat) (field : String) (type? : Option String) :
    Projection × Nat :=
  let (q, new) := p.make type? (.sub id (p.rootOf id)) false
  (q.attach id field new, new)

/-- Appends a new fragment. -/
def addFragment (p : Projection) (id : Nat) (type? : Option String) (typename : Bool) :
    Projection × Nat :=
  let (q, new) := p.make type? (.fragment id (p.rootOf id)) typename
  (q.narrow id new, new)

/-- Records the arguments of a field. -/
def setArguments (p : Projection) (id : Nat) (field : String) (arguments : List (String × Value)) :
    Projection :=
  p.modify id fun n =>
    { n with arguments := SelectionTree.recordArguments field arguments n.arguments }

/-! ## Trees -/

/-- The tree below a node. The fuel bounds its height. -/
def treeWithin (p : Projection) : Nat → Nat → SelectionTree
  | 0, _ => .empty none
  | fuel + 1, id =>
    match p.node? id with
    | none => .empty none
    | some n => .node n.type? (n.fields.map fun (name, sub?) => (name, sub?.map (treeWithin p fuel)))
        n.arguments (n.fragments.map (treeWithin p fuel))

/-- The tree below a node. It is no higher than there are nodes. -/
def tree (p : Projection) (id : Nat) : SelectionTree :=
  p.treeWithin p.nodes.length id

/-- The text of the tree below a node. -/
def selectionText (p : Projection) (id : Nat) : Except LiteralError String :=
  (p.tree id).text

/-- The text of a node: of a fragment with its type, and else of its selection. -/
def text (p : Projection) (id : Nat) : Except LiteralError String :=
  match p.node? id with
  | some { role := .fragment _ _, .. } => (p.tree id).fragmentText
  | _ => p.selectionText id

end Projection

end ClientGen.Request
