import ClientGen.Config
import ClientGen.Entries

/-!
# Custom scalars

The Python type that stands for a custom scalar, with the import that it needs. A type is
named by its path: `int` stands for itself, `decimal.Decimal` is imported from its module.
-/

namespace ClientGen

/-- A Python type for a scalar. -/
structure ScalarType where
  typeName : String
  /-- The import statement that brings the type into scope; a built-in type needs none. -/
  importStatement? : Option String := none
deriving Repr, DecidableEq, Inhabited

/-- A text is no path of a type. -/
structure ScalarPathError where
  path : String
deriving Repr, DecidableEq

/-- The wording of the refusal. -/
def ScalarPathError.message (e : ScalarPathError) : String :=
  s!"Invalid type path: {Text.quoted e.path}"

namespace ScalarType

/-- A type of a module. -/
def imported (module name : String) : ScalarType :=
  ⟨name, some s!"from {module} import {name}"⟩

/-- The type with a path. What stands before the last dot is the module; if that is empty, the
type is built in. -/
def ofPath (path : String) : Except ScalarPathError ScalarType :=
  let (module, name) := (Text.cutLast? '.' path.toList).getD ([], path.toList)
  if !Text.isIdentifierChars name then .error ⟨path⟩
  else if module.isEmpty then .ok ⟨String.ofList name, none⟩
  else if (Text.splitAt '.' module).all Text.isIdentifierChars then
    .ok (imported (String.ofList module) (String.ofList name))
  else .error ⟨path⟩

end ScalarType

/-- The types of the scalars, by the scalars' names. -/
structure Scalars where
  entries : List (String × ScalarType)
deriving Repr

namespace Scalars

/-- The scalars that are known from the start. -/
def default : Scalars :=
  ⟨[("DateTime", .imported "datetime" "datetime"),
    ("Date", .imported "datetime" "date"),
    ("Time", .imported "datetime" "time"),
    ("UUID", .imported "uuid" "UUID"),
    ("JSON", .imported "typing" "Any"),
    ("JSONObject", .imported "typing" "Any"),
    ("Long", ⟨"int", none⟩),
    ("BigDecimal", .imported "decimal" "Decimal")]⟩

/-- Gives a scalar a type, in place of the one it may have. -/
def register (s : Scalars) (name : String) (type : ScalarType) : Scalars :=
  ⟨Entries.put name type s.entries⟩

/-- The type of a scalar. -/
def get? (s : Scalars) (name : String) : Option ScalarType :=
  Entries.get? name s.entries

/-- The scalar has a type. -/
def has (s : Scalars) (name : String) : Bool :=
  (s.get? name).isSome

/-- The imports that the types need. -/
def allImports (s : Scalars) : List String :=
  s.entries.filterMap (·.2.importStatement?)

end Scalars

end ClientGen
