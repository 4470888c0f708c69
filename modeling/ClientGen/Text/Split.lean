/-!
# Cutting texts at a character

`splitAt` cuts a text at every occurrence of a separator, so `a..b` has three parts and the
empty text has one. `cutFirst` and `cutLast` cut once.
-/

namespace ClientGen.Text

/-- The parts between the occurrences of a separator. -/
def splitAt (separator : Char) : List Char → List (List Char)
  | [] => [[]]
  | c :: cs =>
    if c = separator then [] :: splitAt separator cs
    else
      match splitAt separator cs with
      | [] => [[c]]
      | part :: parts => (c :: part) :: parts

/-- The parts of a text between the occurrences of a separator. -/
def parts (separator : Char) (s : String) : List String :=
  (splitAt separator s.toList).map String.ofList

/-- What stands before and after the first separator, if there is one. -/
def cutFirst? (separator : Char) : List Char → Option (List Char × List Char)
  | [] => none
  | c :: cs =>
    if c = separator then some ([], cs)
    else (cutFirst? separator cs).map fun (before, after) => (c :: before, after)

/-- What stands before and after the last separator, if there is one. -/
def cutLast? (separator : Char) (cs : List Char) : Option (List Char × List Char) :=
  (cutFirst? separator cs.reverse).map fun (after, before) => (before.reverse, after.reverse)

theorem splitAt_ne_nil (separator : Char) (cs : List Char) : splitAt separator cs ≠ [] := by
  cases cs with
  | nil => simp [splitAt]
  | cons c cs =>
    rw [splitAt]
    split
    · simp
    · split <;> simp

end ClientGen.Text
