import ClientGen.Example.Operations
import Mathlib.Data.List.Basic
import Mathlib.Data.List.Find
import Mathlib.Logic.Relation
import Mathlib.Order.WellFounded
import Mathlib.Tactic.Lemma

/-!
# The expansion of fragments

To convert a selection set, other ones are converted on the way: those of its fields and of its
inline fragments, which are parts of it, and those of the fragments that it spreads, which may be
larger than it is. These conversions come to an end all the same, since each fragment that is
entered is one less to enter.

* `Conversion.level` is the conversion of one selection set, entry by entry, with what the inner
  ones give as a parameter; `Conversion.level_congr` says which inner ones it asks for.
* `Conversion.ends` says that no chain of conversions, each made within the one before, is infinite,
  and `Conversion.eq_result_of_level` that the levels therefore determine the result.
* `Conversion.nodup_spreading` says that no fragment is entered within itself, and
  `convert_cons_spreading` that within itself it counts as one that is not defined.
-/

namespace ClientGen

open ClientGen.Document
open Relation (ReflTransGen)

variable {definitions : List Fragment} {spreading : List String} {nodes : List SelectionNode}

/-! ## Spreads -/

section Spread

variable {name : String} {directives : List Directive} {rest : List SelectionNode}

/-- A fragment that is not defined adds nothing where it is spread. -/
lemma convert_spread_of_none (h : findFragment? definitions name = none) :
    convert definitions spreading (.spread name directives :: rest)
      = convert definitions spreading rest := by
  rw [convert]
  split
  · rfl
  · rename_i f hf
    cases h.symm.trans hf

/-- Within itself a fragment adds nothing where it is spread. -/
lemma convert_spread_of_mem (h : name ∈ spreading) :
    convert definitions spreading (.spread name directives :: rest)
      = convert definitions spreading rest := by
  rw [convert]
  split
  · rfl
  · rw [dif_pos h]

/-- Elsewhere it is written out, as a fragment on its type. -/
lemma convert_spread_of_some {f : Fragment} (h : findFragment? definitions name = some f)
    (hnew : name ∉ spreading) :
    convert definitions spreading (.spread name directives :: rest)
      = ((convert definitions spreading rest).1,
        .mk f.typeCondition (convert definitions (name :: spreading) f.selections).1
            (convert definitions (name :: spreading) f.selections).2
          :: (convert definitions spreading rest).2) := by
  rw [convert]
  split
  · rename_i hnone
    cases hnone.symm.trans h
  · rename_i g hg
    cases hg.symm.trans h
    rw [dif_neg hnew]

end Spread

/-! ## Conversions -/

/-- A selection set to be converted, and the fragments that are being written out around it. -/
structure Conversion where
  spreading : List String
  nodes : List SelectionNode

namespace Conversion

/-- The fields and the fragments that a conversion gives. -/
def result (definitions : List Fragment) (c : Conversion) : List Selection × List Selection :=
  convert definitions c.spreading c.nodes

/-- Within the first conversion the second is made. -/
inductive Nested (definitions : List Fragment) : Conversion → Conversion → Prop
  | field {spreading : List String} {nodes : List SelectionNode} {alias? : Option String}
      {name : String} {arguments : List Argument} {directives : List Directive}
      {selections : List SelectionNode}
      (h : .field alias? name arguments directives selections ∈ nodes) :
      Nested definitions ⟨spreading, nodes⟩ ⟨spreading, selections⟩
  | inline {spreading : List String} {nodes : List SelectionNode} {type? : Option String}
      {directives : List Directive} {selections : List SelectionNode}
      (h : .inlineFragment type? directives selections ∈ nodes) :
      Nested definitions ⟨spreading, nodes⟩ ⟨spreading, selections⟩
  | spread {spreading : List String} {nodes : List SelectionNode} {name : String}
      {directives : List Directive} {f : Fragment} (h : .spread name directives ∈ nodes)
      (hdefinition : findFragment? definitions name = some f) (hnew : name ∉ spreading) :
      Nested definitions ⟨spreading, nodes⟩ ⟨name :: spreading, f.selections⟩

/-! ## One level -/

/-- What an entry adds to the fields and to the fragments, where `inner` is what the selection sets
inside of it give. -/
def added (definitions : List Fragment)
    (inner : Conversion → List Selection × List Selection) (spreading : List String) :
    SelectionNode → List Selection × List Selection
  | .field _ name _ _ selections =>
    ([.mk name (inner ⟨spreading, selections⟩).1 (inner ⟨spreading, selections⟩).2], [])
  | .inlineFragment none _ selections => inner ⟨spreading, selections⟩
  | .inlineFragment (some type) _ selections =>
    ([], [.mk type (inner ⟨spreading, selections⟩).1 (inner ⟨spreading, selections⟩).2])
  | .spread name _ =>
    match findFragment? definitions name with
    | none => ([], [])
    | some f =>
      if name ∈ spreading then ([], [])
      else
        let below := inner ⟨name :: spreading, f.selections⟩
        ([], [.mk f.typeCondition below.1 below.2])

/-- What the entries of a selection set add, one after the other. -/
def level (definitions : List Fragment)
    (inner : Conversion → List Selection × List Selection) (c : Conversion) :
    List Selection × List Selection :=
  (c.nodes.flatMap fun node => (added definitions inner c.spreading node).1,
    c.nodes.flatMap fun node => (added definitions inner c.spreading node).2)

/-- A selection set is converted entry by entry. -/
lemma result_eq_level (c : Conversion) :
    c.result definitions = level definitions (result definitions) c := by
  obtain ⟨spreading, nodes⟩ := c
  unfold result level
  induction nodes with
  | nil => rw [convert]; rfl
  | cons node rest ih =>
    obtain ⟨hfields, hfragments⟩ := Prod.mk.inj ih
    rw [List.flatMap_cons, List.flatMap_cons, ← hfields, ← hfragments]
    cases node with
    | field => rw [convert]; rfl
    | inlineFragment type? =>
      cases type? with
      | none => rw [convert]; rfl
      | some type => rw [convert]; rfl
    | spread name =>
      simp only [added]
      cases hf : findFragment? definitions name with
      | none => rw [convert_spread_of_none hf]; rfl
      | some f =>
        by_cases hnew : name ∈ spreading
        · rw [convert_spread_of_mem hnew]
          simp only [if_pos hnew]
          rfl
        · rw [convert_spread_of_some hf hnew]
          simp only [if_neg hnew]
          rfl

/-- Of the inner conversions only those that are nested count. -/
lemma level_congr {inner other : Conversion → List Selection × List Selection} {c : Conversion}
    (h : ∀ c', Nested definitions c c' → inner c' = other c') :
    level definitions inner c = level definitions other c := by
  obtain ⟨spreading, nodes⟩ := c
  have hadded : ∀ node ∈ nodes,
      added definitions inner spreading node = added definitions other spreading node := by
    intro node hnode
    cases node with
    | field => simp only [added, h _ (.field hnode)]
    | inlineFragment type? =>
      cases type? with
      | none => exact h _ (.inline hnode)
      | some type => simp only [added, h _ (.inline hnode)]
    | spread name =>
      simp only [added]
      split
      · rfl
      · rename_i f hf
        split
        · rfl
        · rename_i hnew
          rw [h _ (.spread hnode hf hnew)]
  unfold level
  congr 1
  · exact List.flatMap_congr fun node hnode => congrArg Prod.fst (hadded node hnode)
  · exact List.flatMap_congr fun node hnode => congrArg Prod.snd (hadded node hnode)

/-! ## Where conversions end -/

/-- No chain of conversions that starts here, each made within the one before, goes on for ever. -/
def Ends (definitions : List Fragment) (c : Conversion) : Prop :=
  ¬ ∃ chain : ℕ → Conversion, chain 0 = c ∧ ∀ n, Nested definitions (chain n) (chain (n + 1))

/-- Either a fragment is entered that was not before, or the selection set gets smaller. -/
lemma Nested.decreases {c c' : Conversion} (h : Nested definitions c c') :
    Prod.Lex (· < ·) (· < ·) (openFragments definitions c'.spreading, sizeOf c'.nodes)
      (openFragments definitions c.spreading, sizeOf c.nodes) := by
  cases h with
  | field h =>
    have hsize := List.sizeOf_lt_of_mem h
    rw [SelectionNode.field.sizeOf_spec] at hsize
    exact .right _ (by dsimp only; omega)
  | inline h =>
    have hsize := List.sizeOf_lt_of_mem h
    rw [SelectionNode.inlineFragment.sizeOf_spec] at hsize
    exact .right _ (by dsimp only; omega)
  | spread _ hdefinition hnew => exact .left _ _ (openFragments_lt hdefinition hnew)

lemma wellFounded_nested (definitions : List Fragment) :
    WellFounded fun c' c => Nested definitions c c' :=
  Subrelation.wf Nested.decreases
    (InvImage.wf (fun c : Conversion => (openFragments definitions c.spreading, sizeOf c.nodes))
      (WellFounded.prod_lex wellFounded_lt wellFounded_lt))

lemma ends (definitions : List Fragment) (c : Conversion) : Ends definitions c :=
  not_acc_iff_exists_descending_chain.not_right.mp ((wellFounded_nested definitions).apply c)

/-- What is put together level by level is what the conversion gives. -/
lemma eq_result_of_level {inner : Conversion → List Selection × List Selection}
    (h : ∀ c, inner c = level definitions inner c) (c : Conversion) :
    inner c = c.result definitions := by
  induction c using (wellFounded_nested definitions).induction with
  | _ c ih => rw [h c, result_eq_level, level_congr ih]

/-! ## Fragments that are entered -/

lemma Nested.nodup_spreading {c c' : Conversion} (h : Nested definitions c c')
    (hnodup : c.spreading.Nodup) : c'.spreading.Nodup := by
  cases h with
  | field => exact hnodup
  | inline => exact hnodup
  | spread _ _ hnew => exact List.nodup_cons.mpr ⟨hnew, hnodup⟩

/-- From an operation on, each fragment that is being written out was entered once. -/
lemma nodup_spreading {c : Conversion}
    (h : ReflTransGen (Nested definitions) ⟨[], nodes⟩ c) : c.spreading.Nodup := by
  induction h with
  | refl => exact List.nodup_nil
  | tail _ hstep ih => exact hstep.nodup_spreading ih

end Conversion

/-! ## Fragments within themselves -/

/-- A fragment whose definitions are taken away is not found. -/
lemma findFragment?_filter_ne (definitions : List Fragment) (removed name : String) :
    findFragment? (definitions.filter (·.name ≠ removed)) name
      = if name = removed then none else findFragment? definitions name := by
  rw [findFragment?, findFragment?, ← List.filter_reverse, List.find?_filter]
  split
  · rename_i heq
    refine List.find?_eq_none.mpr fun f _ hf => ?_
    simp only [decide_eq_true_eq] at hf
    exact hf.1 (hf.2.trans heq)
  · rename_i hne
    refine List.find?_congr fun f _ => decide_eq_decide.mpr ?_
    simp only [decide_eq_true_eq, and_iff_right_iff_imp]
    rintro rfl
    exact hne

/-- Where a fragment counts as one that is being written out, it may as well not be defined. -/
lemma convert_filter_ne (removed : String) {outside : List String}
    (h : ∀ name, name ∈ spreading ↔ name = removed ∨ name ∈ outside) :
    convert definitions spreading nodes
      = convert (definitions.filter (·.name ≠ removed)) outside nodes := by
  induction spreading, nodes using convert.induct definitions generalizing outside with
  | case1 spreading => rw [convert, convert]
  | case2 spreading alias? name arguments directives selections rest ihInner ihRest =>
    rw [convert, convert, ihInner h, ihRest h]
  | case3 spreading directives selections rest ihInner ihRest =>
    rw [convert, convert, ihInner h, ihRest h]
  | case4 spreading type directives selections rest ihInner ihRest =>
    rw [convert, convert, ihInner h, ihRest h]
  | case5 spreading name directives rest hnone ihRest =>
    have hnone' : findFragment? (definitions.filter (·.name ≠ removed)) name = none := by
      rw [findFragment?_filter_ne, hnone, ite_self]
    rw [convert_spread_of_none hnone, convert_spread_of_none hnone', ihRest h]
  | case6 spreading name directives rest f hf hcut ihRest =>
    rw [convert_spread_of_mem hcut, ihRest h]
    -- the fragment is the one that is taken away, or one of the others that are being written out
    rcases (h name).mp hcut with heq | houtside
    · have hnone : findFragment? (definitions.filter (·.name ≠ removed)) name = none := by
        rw [findFragment?_filter_ne, if_pos heq]
      rw [convert_spread_of_none hnone]
    · rw [convert_spread_of_mem houtside]
  | case7 spreading name directives rest f hf hnew ihRest ihInner =>
    have hne : name ≠ removed := fun heq => hnew ((h name).mpr (.inl heq))
    have houtside : name ∉ outside := fun hmem => hnew ((h name).mpr (.inr hmem))
    have hfound : findFragment? (definitions.filter (·.name ≠ removed)) name = some f := by
      rw [findFragment?_filter_ne, if_neg hne, hf]
    have hinside : ∀ other,
        other ∈ name :: spreading ↔ other = removed ∨ other ∈ name :: outside := by
      intro other
      rw [List.mem_cons, List.mem_cons, h other]
      exact or_left_comm
    rw [convert_spread_of_some hf hnew, convert_spread_of_some hfound houtside, ihInner hinside,
      ihRest h]

/-- Within itself a fragment counts as one that is not defined. -/
lemma convert_cons_spreading (definitions : List Fragment) (name : String)
    (spreading : List String) (nodes : List SelectionNode) :
    convert definitions (name :: spreading) nodes
      = convert (definitions.filter (·.name ≠ name)) spreading nodes :=
  convert_filter_ne name fun _ => List.mem_cons

end ClientGen
