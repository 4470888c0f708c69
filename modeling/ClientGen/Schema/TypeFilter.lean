import ClientGen.Schema.Lookup

/-!
# Leaving types out

A schema without the types whose names begin or end in some way. The root types stay in any
case, since nothing could be generated without them.
-/

namespace ClientGen

/-- Which names are left out. An empty text says nothing. -/
structure TypeFilter where
  excludeStart : String := ""
  excludeEnd : String := ""
  includeStart : String := ""
  includeEnd : String := ""
deriving Repr, Inhabited

namespace TypeFilter

/-- The name is not left out. -/
def admits (f : TypeFilter) (name : String) : Bool :=
  !(f.excludeStart ≠ "" && name.startsWith f.excludeStart)
    && !(f.excludeEnd ≠ "" && name.endsWith f.excludeEnd)
    && (f.includeStart = "" || name.startsWith f.includeStart)
    && (f.includeEnd = "" || name.endsWith f.includeEnd)

/-- The schema without the types that are left out. -/
def apply (f : TypeFilter) (s : Schema) : Schema :=
  { s with types := s.types.filter fun t =>
      (s.roots.toList.map (·.2)).contains t.name || f.admits t.name }

/-- The schema after several filters, one after the other. -/
def applyAll (filters : List TypeFilter) (s : Schema) : Schema :=
  filters.foldl (fun s f => f.apply s) s

end TypeFilter

end ClientGen
