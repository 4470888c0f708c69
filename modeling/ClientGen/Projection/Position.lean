import ClientGen.Example.Selection

/-!
# Positions of the projection walk

Where the walk over the types of a schema stands: the type at hand, what the example selects
there, the edges it has passed, each from an owner to the type of one of its fields, and how
many fields it has descended. A fragment narrows the type and passes no edge.
-/

namespace ClientGen.Projection

/-- A position of the walk. -/
structure Position where
  typeName : String
  selection? : Option Selection := none
  /-- The edges passed, as pairs of the field's type and its owner. -/
  edges : List (String × String) := []
  depth : Nat := 0
deriving Repr, Inhabited

namespace Position

/-- The position of a root. -/
def start (typeName : String) (selection? : Option Selection) : Position :=
  { typeName, selection? }

/-- The position below a field. -/
def descend (p : Position) (typeName : String) (selection? : Option Selection) : Position :=
  { typeName
    selection?
    edges := p.edges.insert (typeName, p.typeName)
    depth := p.depth + 1 }

/-- The position in a fragment. -/
def narrow (p : Position) (typeName : String) (selection? : Option Selection) : Position :=
  { p with
    typeName
    selection? }

end Position

end ClientGen.Projection
