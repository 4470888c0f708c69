import ClientGen.Naming.Reserved
import ClientGen.Naming.Words
import ClientGen.Text.Letter

/-!
# Names that are free

A name is made free by underscores at its end. There are as many candidates as one likes and
only so many names are taken, so a free one is found.
-/

namespace ClientGen.Naming

/-! ## Avoiding what is taken -/

/-- The first free name among the given one and those with up to `more` underscores added. -/
def firstFree (isTaken : String → Bool) : Nat → String → String
  | 0, name => name
  | more + 1, name => if isTaken name then firstFree isTaken more (name ++ "_") else name

/-- The name, with underscores until it is not taken. -/
def fresh (taken : List String) (name : String) : String :=
  firstFree taken.contains taken.length name

/-- A keyword takes an underscore at its end. -/
def avoidKeyword (name : String) : String :=
  if keywords.contains name then name ++ "_" else name

/-! ## Names in generated classes -/

/-- The parameter or method for a field or argument. -/
def memberName (taken : List String) (name : String) : String :=
  fresh taken (avoidKeyword (snakeCase name))

/-- The method for a fragment on a type. -/
def fragmentMethodName (taken : List String) (type : String) : String :=
  fresh taken ("on_" ++ snakeCase type)

/-- Without leading underscores, which would make an attribute private; a name that is then
empty or does not begin with a letter gets a first word. -/
def publicName (cs : List Char) : List Char :=
  match cs.dropWhile (· == '_') with
  | [] => "field_".toList
  | c :: rest => if Text.isLetter c then c :: rest else "field_".toList ++ c :: rest

/-- The attribute of a model for a field. -/
def modelFieldName (taken : List String) (name : String) : String :=
  let base := String.ofList (publicName (avoidKeyword (snakeCase name)).toList)
  fresh taken (if modelAttributes.contains base then base ++ "_" else base)

end ClientGen.Naming
