/-!
# Example selections

What an example operation selects at a position: the fields, each with what is selected below
it, and beside them the fragments by their types. The tree is kept as it was written; a field
that is selected twice, or that also stands in a fragment on the type at hand, is merged only
when the position is looked at.
-/

namespace ClientGen

/-- A field, or a fragment on a type, and what is selected below it. -/
inductive Selection where
  | mk (name : String) (fields fragments : List Selection)
deriving Repr, Inhabited

namespace Selection

/-! ## Parts -/

/-- The name of the field, or the type of the fragment. -/
def name : Selection → String
  | mk name _ _ => name

/-- The fields selected directly below. -/
def fields : Selection → List Selection
  | mk _ fields _ => fields

/-- The fragments directly below. -/
def fragments : Selection → List Selection
  | mk _ _ fragments => fragments

/-- Selects nothing. -/
def isEmpty (s : Selection) : Bool :=
  s.fields.isEmpty && s.fragments.isEmpty

/-! ## Merging -/

/-- One selection with the content of both. -/
def merged (a b : Selection) : Selection :=
  mk a.name (a.fields ++ b.fields) (a.fragments ++ b.fragments)

/-- Merges a selection into the one of its name, or adds it at the end. -/
def mergeInto (s : Selection) : List Selection → List Selection
  | [] => [s]
  | t :: ts => if t.name = s.name then t.merged s :: ts else t :: mergeInto s ts

/-- One selection of each name, at the place of its first. -/
def mergeByName (ss : List Selection) : List Selection :=
  ss.foldl (fun merged s => mergeInto s merged) []

/-! ## Looking at a position -/

/-- The fragments on a type. -/
def fragmentsOn (s : Selection) (type : String) : List Selection :=
  s.fragments.filter (·.name = type)

/-- The fields selected at a position of a type: those directly below and those of the
fragments on the type. -/
def fieldsFor (s : Selection) (type? : Option String) : List Selection :=
  let inFragments := match type? with
    | none => []
    | some type => (s.fragmentsOn type).flatMap fields
  mergeByName (s.fields ++ inFragments)

/-- What is selected below a field. -/
def child? (s : Selection) (field : String) (type? : Option String) : Option Selection :=
  (s.fieldsFor type?).find? (·.name = field)

/-- What is selected in all fragments on a type. -/
def fragment? (s : Selection) (type : String) : Option Selection :=
  match s.fragmentsOn type with
  | [] => none
  | f :: fs => some (fs.foldl merged f)

/-- Adds a name that is not there yet. -/
private def addNew (names : List String) (name : String) : List String :=
  if names.contains name then names else names ++ [name]

/-- The types of the fragments, each once. -/
def fragmentTypes (s : Selection) : List String :=
  (s.fragments.map name).foldl addNew []

/-! ## Height

Every step to a field or a fragment leads to a lower selection, so a walk along an example
comes to an end. -/

mutual

/-- The number of levels below a selection, itself included. -/
def height : Selection → Nat
  | mk _ fields fragments => max (heightOfAll fields) (heightOfAll fragments) + 1

/-- The greatest height in a list. -/
def heightOfAll : List Selection → Nat
  | [] => 0
  | s :: ss => max s.height (heightOfAll ss)

end

theorem heightOfAll_append (as bs : List Selection) :
    heightOfAll (as ++ bs) = max (heightOfAll as) (heightOfAll bs) := by
  induction as with
  | nil => simp [heightOfAll]
  | cons a as ih => simp [heightOfAll, ih, Nat.max_assoc]

theorem height_le_heightOfAll {s : Selection} {ss : List Selection} (h : s ∈ ss) :
    s.height ≤ heightOfAll ss := by
  induction ss with
  | nil => cases h
  | cons t ts ih =>
    rw [heightOfAll]
    rcases List.mem_cons.mp h with rfl | h
    · exact Nat.le_max_left _ _
    · exact Nat.le_trans (ih h) (Nat.le_max_right _ _)

theorem height_eq (s : Selection) :
    s.height = max (heightOfAll s.fields) (heightOfAll s.fragments) + 1 := by
  cases s with
  | mk _ _ _ => rw [height, fields, fragments]

/-- A merged selection is as high as the higher of its two parts. -/
theorem height_merged (a b : Selection) : (a.merged b).height = max a.height b.height := by
  rw [merged, height, heightOfAll_append, heightOfAll_append, height_eq a, height_eq b]
  omega

theorem heightOfAll_mergeInto (s : Selection) (ts : List Selection) :
    heightOfAll (mergeInto s ts) = max s.height (heightOfAll ts) := by
  induction ts with
  | nil => rfl
  | cons t ts ih =>
    rw [mergeInto]
    split
    · rw [heightOfAll, heightOfAll, height_merged]
      omega
    · rw [heightOfAll, heightOfAll, ih]
      omega

theorem heightOfAll_mergeByName (ss : List Selection) :
    heightOfAll (mergeByName ss) = heightOfAll ss := by
  suffices h : ∀ acc, heightOfAll (ss.foldl (fun merged s => mergeInto s merged) acc)
      = max (heightOfAll acc) (heightOfAll ss) by
    rw [mergeByName, h, heightOfAll, Nat.zero_max]
  induction ss with
  | nil => intro acc; rw [List.foldl_nil, heightOfAll, Nat.max_zero]
  | cons s ss ih =>
    intro acc
    rw [List.foldl_cons, ih, heightOfAll_mergeInto, heightOfAll]
    omega

theorem heightOfAll_filter_le (p : Selection → Bool) (ss : List Selection) :
    heightOfAll (ss.filter p) ≤ heightOfAll ss := by
  induction ss with
  | nil => exact Nat.le_refl _
  | cons s ss ih =>
    rw [List.filter_cons]
    split
    · rw [heightOfAll, heightOfAll]
      omega
    · rw [heightOfAll]
      omega

theorem heightOfAll_flatMap_fields_le (ss : List Selection) :
    heightOfAll (ss.flatMap fields) ≤ heightOfAll ss := by
  induction ss with
  | nil => exact Nat.le_refl _
  | cons s ss ih =>
    rw [List.flatMap_cons, heightOfAll_append, heightOfAll, height_eq s]
    omega

theorem heightOfAll_fieldsFor_lt (s : Selection) (type? : Option String) :
    heightOfAll (s.fieldsFor type?) < s.height := by
  rw [height_eq s]
  cases type? with
  | none =>
    simp only [fieldsFor, heightOfAll_mergeByName, heightOfAll_append, heightOfAll]
    omega
  | some type =>
    have h1 := heightOfAll_flatMap_fields_le (s.fragmentsOn type)
    have h2 := heightOfAll_filter_le (fun f => decide (f.name = type)) s.fragments
    simp only [fieldsFor, heightOfAll_mergeByName, heightOfAll_append]
    rw [fragmentsOn] at h1 ⊢
    omega

theorem height_child?_lt {s c : Selection} {field : String} {type? : Option String}
    (h : s.child? field type? = some c) : c.height < s.height :=
  Nat.lt_of_le_of_lt (height_le_heightOfAll (List.mem_of_find?_eq_some h))
    (heightOfAll_fieldsFor_lt s type?)

theorem height_foldl_merged (s : Selection) (ss : List Selection) :
    (ss.foldl merged s).height = max s.height (heightOfAll ss) := by
  induction ss generalizing s with
  | nil => rw [List.foldl_nil, heightOfAll, Nat.max_zero]
  | cons t ts ih =>
    rw [List.foldl_cons, ih, height_merged, heightOfAll]
    omega

theorem height_fragment?_lt {s c : Selection} {type : String}
    (h : s.fragment? type = some c) : c.height < s.height := by
  have hle := heightOfAll_filter_le (fun f => decide (f.name = type)) s.fragments
  rw [fragment?] at h
  split at h
  · cases h
  · rename_i f fs hfs
    cases h
    rw [fragmentsOn] at hfs
    rw [hfs, heightOfAll] at hle
    rw [height_foldl_merged, height_eq s]
    omega

end Selection

end ClientGen
