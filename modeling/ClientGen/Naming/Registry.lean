/-!
# Registered names

The names of all classes of a run. A name is given out once.
-/

namespace ClientGen.Naming

/-- The names given out so far, latest first. -/
structure Registry where
  names : List String := []
deriving Repr, Inhabited

namespace Registry

/-- The name has been given out. -/
def contains (r : Registry) (name : String) : Bool :=
  r.names.contains name

/-- How many names have been given out. -/
def size (r : Registry) : Nat :=
  r.names.length

/-- Gives out a name, unless it has been given out before. -/
def register? (r : Registry) (name : String) : Option Registry :=
  if r.contains name then none else some ⟨name :: r.names⟩

end Registry

end ClientGen.Naming
