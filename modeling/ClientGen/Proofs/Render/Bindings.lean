import ClientGen.Proofs.Naming.SnakeCase
import ClientGen.Proofs.Text.Parts
import ClientGen.Render.Modules

/-!
# What names stand for in a module

At the top of a module, imports and classes bind names. A name stands for what the last line that
binds it says, and for what is built in if there is no such line. Lines that are indented bind
nothing at the top; a docstring counts as one line.

In a module of data types the imports come first: those that every such module has, and those of
scalars. Then come the classes. They are named as types of the schema are, so a class may take a
name away from what the imports have bound it to.

* `bindings_modelsLines` lists all that a module of data types binds.
* `stays_iff` says when a name keeps the meaning that the imports give it.
-/

namespace ClientGen.Render

open ClientGen.Document.Token (isName)
open ClientGen.Naming (isNamePart_of_mem_name)

/-! ## Bindings -/

/-- What a name stands for: something built in, what is at the end of a dotted path, or a class of
the module itself. -/
inductive Meaning where
  | builtin
  | path (path : String)
  | dataType
deriving Repr, DecidableEq

/-- A word of an import, without the marks around it. -/
def bareWord (word : String) : String :=
  String.ofList (word.toList.filter fun c => c != ',' && c != '(' && c != ')')

/-- The name at the beginning of a dotted path. -/
def topName (path : String) : String :=
  String.ofList (path.toList.takeWhile (· != '.'))

/-- The names that are imported from a module; each may get another name behind `as`. -/
def importedFrom (module : String) : List String → List (String × Meaning)
  | item :: "as" :: name :: more =>
    (bareWord name, .path (module ++ "." ++ bareWord item)) :: importedFrom module more
  | item :: more =>
    (bareWord item, .path (module ++ "." ++ bareWord item)) :: importedFrom module more
  | [] => []

/-- The names of imported modules: that at the beginning of the path, or the one behind `as`. -/
def importedModules : List String → List (String × Meaning)
  | item :: "as" :: name :: more => (bareWord name, .path (bareWord item)) :: importedModules more
  | item :: more =>
    (topName (bareWord item), .path (topName (bareWord item))) :: importedModules more
  | [] => []

/-- The names that a line at the top of a module binds. -/
def bindings (line : String) : List (String × Meaning) :=
  match Text.parts ' ' line with
  | "from" :: module :: "import" :: items => importedFrom module items
  | "import" :: items => importedModules items
  | "class" :: head :: _ =>
    [(String.ofList (head.toList.takeWhile fun c => c != '(' && c != ':'), .dataType)]
  | _ => []

/-- What a name stands for after some lines. -/
def meaning (lines : List String) (name : String) : Meaning :=
  (((lines.flatMap bindings).reverse.find? (·.1 = name)).map (·.2)).getD .builtin

variable {name line : String} {lines more : List String} {m : Meaning} {d : DataClass}
  {classes : List DataClass}

/-- Lines that do not bind a name leave it what it is. -/
lemma meaning_append_of_not_mem (h : ∀ b ∈ more.flatMap bindings, b.1 ≠ name) :
    meaning (lines ++ more) name = meaning lines name := by
  have hnone : (more.flatMap bindings).reverse.find? (·.1 = name) = none := by
    simpa [List.find?_eq_none] using h
  unfold meaning
  rw [List.flatMap_append, List.reverse_append, List.find?_append, hnone, Option.none_or]

/-- What no line binds is built in. -/
lemma meaning_eq_builtin (h : ∀ b ∈ lines.flatMap bindings, b.1 ≠ name) :
    meaning lines name = .builtin := by
  rw [← List.nil_append lines, meaning_append_of_not_mem h]
  rfl

/-- A name stands for what all lines say that bind it. -/
lemma meaning_append_of_mem (h : ∃ b ∈ more.flatMap bindings, b.1 = name)
    (hall : ∀ b ∈ more.flatMap bindings, b.1 = name → b.2 = m) :
    meaning (lines ++ more) name = m := by
  have hsome : ((more.flatMap bindings).reverse.find? (·.1 = name)).isSome := by
    simpa [List.find?_isSome] using h
  obtain ⟨b, hb⟩ := Option.isSome_iff_exists.mp hsome
  have hmem : b ∈ more.flatMap bindings := List.mem_reverse.mp (List.mem_of_find?_eq_some hb)
  have hname : b.1 = name := by simpa using List.find?_some hb
  unfold meaning
  rw [List.flatMap_append, List.reverse_append, List.find?_append, hb, Option.some_or]
  exact hall b hmem hname

/-! ## Lines of a module of data types -/

lemma bindings_of_indented (level : ℕ) (line : String) :
    bindings (indented (level + 1) line) = [] := by
  have hline : indented (level + 1) line = "" ++ String.singleton ' '
      ++ (String.ofList (List.replicate (4 * level + 3) ' ') ++ line) := by
    apply String.toList_injective
    simp [indented, Nat.mul_add, List.replicate_succ]
  have hempty : Text.parts ' ' "" = [""] := by decide
  unfold bindings
  rw [hline, Text.parts_append, hempty]
  rfl

/-- The line at the head of a class binds its name. -/
lemma bindings_of_head (hname : isName name = true) {first : String} {more : List String}
    (hblanks : ∀ s ∈ first :: more, ' ' ∉ s.toList) :
    bindings (" ".intercalate ("class" :: (name ++ "(" ++ first) :: more))
      = [(name, .dataType)] := by
  have hfree : ∀ c ∈ name.toList, (c != '(' && c != ':') = true ∧ c ≠ ' ' := fun c hc => by
    have hpart := Naming.forall_isNamePart (p := fun c => (c != '(' && c != ':') && c != ' ')
      (by decide +kernel) (isNamePart_of_mem_name hname c hc)
    simpa using hpart
  have hwords : ∀ s ∈ "class" :: (name ++ "(" ++ first) :: more, ' ' ∉ s.toList := by
    simp only [List.forall_mem_cons] at hblanks ⊢
    refine ⟨by decide, ?_, hblanks.2⟩
    simp only [String.toList_append, List.mem_append, not_or]
    exact ⟨⟨fun hmem => (hfree _ hmem).2 rfl, by decide⟩, hblanks.1⟩
  have hparts : Text.parts ' ' (" ".intercalate ("class" :: (name ++ "(" ++ first) :: more))
      = "class" :: (name ++ "(" ++ first) :: more :=
    Text.parts_intercalate (List.cons_ne_nil _ _) hwords
  have hhead : (name ++ "(" ++ first).toList.takeWhile (fun c => c != '(' && c != ':')
      = name.toList := by
    simp only [String.toList_append, List.append_assoc]
    rw [List.takeWhile_append_of_pos fun c hc => (hfree c hc).1]
    simp
  unfold bindings
  rw [hparts]
  simp only [hhead, String.ofList_toList]

lemma bindings_of_docstring (description? : Option String) :
    (classDocstring description?).flatMap bindings = [] := by
  have hempty : bindings "" = [] := by decide
  unfold classDocstring docstring
  cases present? description? with
  | none => rfl
  | some d => simp [bindings_of_indented, hempty]

lemma bindings_enumClass (hname : isName d.name = true) (values : List String) :
    (enumClass d values).flatMap bindings = [(d.name, .dataType)] := by
  have hempty : bindings "" = [] := by decide
  have hhead : "class " ++ d.name ++ "(str, Enum):"
      = " ".intercalate ["class", d.name ++ "(" ++ "str,", "Enum):"] := by
    apply String.toList_injective
    simp
  have hmembers : (enumMembers values).flatMap bindings = [] := by
    cases values with
    | nil => decide
    | cons v vs => simp [enumMembers, bindings_of_indented]
  unfold enumClass
  simp only [hhead, List.flatMap_append, List.flatMap_cons, List.flatMap_nil, hempty,
    bindings_of_head hname (by decide : ∀ s ∈ ["str,", "Enum):"], ' ' ∉ s.toList),
    bindings_of_docstring, hmembers, List.nil_append, List.append_nil]

lemma bindings_modelClass (hname : isName d.name = true) :
    (modelClass d).flatMap bindings = [(d.name, .dataType)] := by
  have hempty : bindings "" = [] := by decide
  have hhead : "class " ++ d.name ++ "(BaseModel):"
      = " ".intercalate ["class", d.name ++ "(" ++ "BaseModel):"] := by
    apply String.toList_injective
    simp
  have htypename : (typenameLines d.body).flatMap bindings = [] := by
    cases d.body <;> simp [typenameLines, bindings_of_indented, hempty]
  have hfields : (d.body.fields.flatMap modelField).flatMap bindings = [] := by
    simp only [List.flatMap_eq_nil_iff, List.mem_flatMap]
    rintro line ⟨f, -, hline⟩
    unfold modelField at hline
    rcases List.mem_append.mp hline with hline | hline
    · split at hline
      · cases hline
      · rw [List.mem_singleton.mp hline, bindings_of_indented]
    · rw [List.mem_singleton.mp hline, bindings_of_indented]
  unfold modelClass
  simp only [hhead, List.flatMap_append, List.flatMap_cons, List.flatMap_nil, hempty,
    bindings_of_head hname (by decide : ∀ s ∈ ["BaseModel):"], ' ' ∉ s.toList),
    bindings_of_docstring, bindings_of_indented, htypename, hfields, List.nil_append,
    List.append_nil]

/-- A data type binds its name, and nothing else. -/
theorem bindings_dataClass (hname : isName d.name = true) :
    (dataClass d).flatMap bindings = [(d.name, .dataType)] := by
  unfold dataClass
  split
  · exact bindings_enumClass hname _
  · exact bindings_modelClass hname

lemma bindings_rebuilds {models : List DataClass} (h : ∀ d ∈ models, isName d.name = true) :
    (rebuilds models).flatMap bindings = [] := by
  have hempty : bindings "" = [] := by decide
  have hcall : ∀ d ∈ models, bindings (d.name ++ ".model_rebuild()") = [] := by
    intro d hd
    have hblank : ' ' ∉ (d.name ++ ".model_rebuild()").toList := by
      rw [String.toList_append, List.mem_append, not_or]
      exact ⟨fun hmem => absurd (isNamePart_of_mem_name (h d hd) _ hmem) (by decide), by decide⟩
    unfold bindings
    rw [Text.parts_of_not_mem hblank]
    split <;> simp_all [importedModules]
  cases models with
  | nil => rfl
  | cons d models =>
    simp only [rebuilds, List.flatMap_cons, hempty, List.nil_append, List.flatMap_map]
    exact List.flatMap_eq_nil_iff.mpr hcall

/-! ## The whole module -/

/-- All lines of a module of data types. -/
def modelsLines (classes : List DataClass) : List String :=
  modelsOpening classes ++ ((arranged classes).flatMap dataClass ++ rebuilds (modelsOf classes))

/-- The text of a module of data types are these lines. -/
lemma text_models (typesPackage? : Option String) (classes : List DataClass) :
    (ModuleContent.models classes).text typesPackage? = textOfLines (modelsLines classes) := by
  have hclasses : ((arranged classes).map GeneratedClass.dataType).flatMap classLines
      = (arranged classes).flatMap dataClass := by
    rw [List.flatMap_map]
    rfl
  unfold ModuleContent.text modelsLines
  rw [← List.append_assoc, ← hclasses]
  rfl

/-- The names that every module of data types imports. -/
def fixedNames : List (String × Meaning) :=
  [("annotations", .path "__future__.annotations"), ("Enum", .path "enum.Enum"),
   ("Any", .path "typing.Any"), ("List", .path "typing.List"),
   ("Optional", .path "typing.Optional"), ("Union", .path "typing.Union"),
   ("BaseModel", .path "pydantic.BaseModel"), ("ConfigDict", .path "pydantic.ConfigDict"),
   ("Field", .path "pydantic.Field")]

/-- What the imports of scalars bind in a module of data types. -/
def scalarNames (classes : List DataClass) : List (String × Meaning) :=
  (Text.sortedSet (classes.flatMap (·.imports))).flatMap bindings

lemma bindings_exports (names : List String) : (exports names).flatMap bindings = [] := by
  have hfixed : bindings "" = [] ∧ bindings "__all__ = [" = [] ∧ bindings "]" = [] := by decide
  simp [exports, bindings_of_indented, hfixed]

lemma bindings_modelsOpening (classes : List DataClass) :
    (modelsOpening classes).flatMap bindings = fixedNames ++ scalarNames classes := by
  have hfixed : (["\"\"\"Generated GraphQL data types. Do not edit.\"\"\"", "",
      "from __future__ import annotations", "", "from enum import Enum",
      "from typing import Any, List, Optional, Union", "",
      "from pydantic import BaseModel, ConfigDict, Field"]).flatMap bindings = fixedNames := by
    decide +kernel
  unfold modelsOpening
  rw [List.flatMap_append, List.flatMap_append, hfixed, bindings_exports, List.append_nil]
  rfl

lemma mem_arranged : d ∈ arranged classes ↔ d ∈ classes := by
  cases hbody : d.body <;> simp [arranged, modelsOf, ofKind, hbody, DataBody.kindName]

/-- A module of data types binds what every such module imports, what the imports of its scalars
bind, and its classes, in this order. -/
theorem bindings_modelsLines (h : ∀ d ∈ classes, isName d.name = true) :
    (modelsLines classes).flatMap bindings
      = fixedNames ++ scalarNames classes
        ++ (arranged classes).map fun d => (d.name, .dataType) := by
  have hclasses : ((arranged classes).flatMap dataClass).flatMap bindings
      = (arranged classes).map fun d => (d.name, .dataType) := by
    rw [List.flatMap_assoc, List.flatMap_congr fun d hd =>
      bindings_dataClass (h d (mem_arranged.mp hd)), ← List.map_eq_flatMap]
  have hmodels : ∀ d ∈ modelsOf classes, isName d.name = true := fun d hd =>
    h d (mem_arranged.mp (List.mem_append_right _ hd))
  unfold modelsLines
  rw [List.flatMap_append, List.flatMap_append, bindings_modelsOpening, hclasses,
    bindings_rebuilds hmodels, List.append_nil]

/-! ## Names that keep their meaning -/

/-- Wherever a module of data types has got to after its imports, the name stands for the same. -/
def Stays (classes : List DataClass) (name : String) (m : Meaning) : Prop :=
  ∀ lines, modelsOpening classes <+: lines → lines <+: modelsLines classes → meaning lines name = m

lemma bindings_classes (h : ∀ d ∈ classes, isName d.name = true) :
    ((arranged classes).flatMap dataClass ++ rebuilds (modelsOf classes)).flatMap bindings
      = (arranged classes).map fun d => (d.name, .dataType) := by
  have hlines := bindings_modelsLines h
  unfold modelsLines at hlines
  rw [List.flatMap_append, bindings_modelsOpening] at hlines
  exact List.append_cancel_left hlines

/-- At the end of its module the name of a class stands for the class. -/
theorem meaning_of_class (h : ∀ d ∈ classes, isName d.name = true) (hd : d ∈ classes) :
    meaning (modelsLines classes) d.name = .dataType := by
  refine meaning_append_of_mem ?_ fun b hb _ => ?_
  · rw [bindings_classes h]
    exact ⟨_, List.mem_map_of_mem (mem_arranged.mpr hd), rfl⟩
  · rw [bindings_classes h] at hb
    obtain ⟨_, -, rfl⟩ := List.mem_map.mp hb
    rfl

/-- A name that the imports leave with a meaning keeps it exactly if no class goes by it. -/
theorem stays_iff (h : ∀ d ∈ classes, isName d.name = true)
    (himports : meaning (modelsOpening classes) name = m) (hm : m ≠ .dataType) :
    Stays classes name m ↔ ∀ d ∈ classes, d.name ≠ name := by
  constructor
  · rintro hstays d hd rfl
    have hlost := meaning_of_class h hd
    rw [hstays (modelsLines classes) (List.prefix_append _ _) List.prefix_rfl] at hlost
    exact hm hlost
  · rintro hfree lines ⟨body, rfl⟩ hlines
    have hbody : body <+: (arranged classes).flatMap dataClass ++ rebuilds (modelsOf classes) :=
      (List.prefix_append_right_inj _).mp hlines
    rw [← himports]
    refine meaning_append_of_not_mem fun b hb => ?_
    obtain ⟨line, hline, hb⟩ := List.mem_flatMap.mp hb
    have hmem := List.mem_flatMap.mpr ⟨line, hbody.mem hline, hb⟩
    rw [bindings_classes h] at hmem
    obtain ⟨d, hd, rfl⟩ := List.mem_map.mp hmem
    exact hfree d (mem_arranged.mp hd)

/-- Where the imports bind a name to one thing only, it stands for that after them; and where they
do not bind it, for what is built in. -/
lemma meaning_modelsOpening
    (hbound : (∃ b ∈ fixedNames ++ scalarNames classes, b.1 = name) ∨ m = .builtin)
    (hall : ∀ b ∈ fixedNames ++ scalarNames classes, b.1 = name → b.2 = m) :
    meaning (modelsOpening classes) name = m := by
  rw [← bindings_modelsOpening] at hbound hall
  by_cases hmem : ∃ b ∈ (modelsOpening classes).flatMap bindings, b.1 = name
  · rw [← List.nil_append (modelsOpening classes)]
    exact meaning_append_of_mem hmem hall
  · rw [hbound.resolve_left hmem]
    exact meaning_eq_builtin fun b hb hname => hmem ⟨b, hb, hname⟩

end ClientGen.Render
