/-!
# Sorted sets of texts

A set of texts is written in the order of its code points, each text once.
-/

namespace ClientGen.Text

/-- Puts a text at its place in a sorted list, unless it is there. -/
def insertSorted (s : String) : List String → List String
  | [] => [s]
  | t :: ts =>
    if s < t then s :: t :: ts
    else if s = t then t :: ts
    else t :: insertSorted s ts

/-- The texts of a list in order, each once. -/
def sortedSet (ss : List String) : List String :=
  ss.foldr insertSorted []

theorem mem_insertSorted {s t : String} {ts : List String} :
    t ∈ insertSorted s ts ↔ t = s ∨ t ∈ ts := by
  induction ts with
  | nil => simp [insertSorted]
  | cons u us ih =>
    rw [insertSorted]
    split
    · simp
    · split
      · rename_i h
        subst h
        simp
      · simp only [List.mem_cons, ih]
        exact or_left_comm

theorem mem_sortedSet {t : String} {ss : List String} : t ∈ sortedSet ss ↔ t ∈ ss := by
  induction ss with
  | nil => simp [sortedSet]
  | cons s ss ih =>
    rw [sortedSet, List.foldr_cons, mem_insertSorted, List.mem_cons]
    exact or_congr_right ih

end ClientGen.Text
