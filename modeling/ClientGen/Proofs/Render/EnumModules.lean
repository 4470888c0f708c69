import ClientGen.Proofs.Render.Enums
import ClientGen.Proofs.Render.Programs
import ClientGen.Proofs.Source.Tokens

/-!
# Modules of enums

A module of enums is read as a docstring, imports, a list of the names that it exports, and the
classes. All of these are statements, except for a class that is named like a keyword.

* `readLines_import` and `readLines_exports`: how the lines before the classes are read.
* `isStatement_enumStatement`: what an enum class is read as is a statement.
* `isProgram_enumModule`: when the module is a program.
* `exists_moduleFile_enums_iff`: when its file is made; a null character in a description is the
  other thing that keeps it from being made.
-/

namespace ClientGen.Render

open ClientGen.Naming
open ClientGen.Document.Token (isName)
open ClientGen.Source

variable {names : List String} {value : String} {c : DataClass} {classes : List DataClass}

/-! ## Lines of imports -/

/-- The docstring of a module. -/
lemma readLines_moduleDocstring (d : String) :
    ReadLines [indented 0 ("\"\"\"" ++ docstringText d ++ "\"\"\"")] []
      [.string false [], .newline] [] :=
  fun more => ⟨3, fun fuel => tokensFrom?_docstring d fuel 0 [] more⟩

/-- The line that imports names from a module. -/
def importLine (module first : String) (others : List String) : String :=
  "from " ++ module ++ " import " ++ first ++ String.join (others.map (", " ++ ·))

lemma endsWord_furtherNames (names : List String) (rest : List Char) :
    endsWord (names.flatMap (fun n => ',' :: ' ' :: n.toList) ++ '\n' :: rest) = true := by
  cases names <;> rfl

lemma reads_furtherNames (h : ∀ n ∈ names, isName n = true) (rest : List Char) :
    Reads { atStart := false } (names.flatMap (fun n => ',' :: ' ' :: n.toList) ++ '\n' :: rest)
      (furtherNames names ++ [.newline]) {} rest := by
  induction names with
  | nil => exact .lineEnd (.refl _ _)
  | cons n names ih =>
    obtain ⟨hn, hnames⟩ := List.forall_mem_cons.mp h
    have hends := endsWord_furtherNames names rest
    rw [List.flatMap_cons, List.append_assoc]
    exact .token (t := .op ",") rfl rfl rfl (.blank (.name hn hends (ih hnames)))

/-- At the top a line stays where it is. -/
lemma staysOut : reindent? ⟨0, 0⟩ [] = some ([], []) := rfl

lemma toList_importLine (module first : String) (others : List String) :
    (importLine module first others).toList = List.replicate 0 ' ' ++ ("from".toList ++ ' '
      :: (module.toList ++ ' ' :: ("import".toList ++ ' ' :: (first.toList
        ++ others.flatMap fun n => ',' :: ' ' :: n.toList)))) := by
  have hothers : (String.join (others.map (", " ++ ·))).toList
      = others.flatMap fun n => ',' :: ' ' :: n.toList := by
    simp [String.toList_join, List.flatMap_map]
  simp [importLine, hothers]

lemma readLines_import {module first : String} (hmodule : isName module = true)
    (hfirst : isName first = true) (h : ∀ n ∈ names, isName n = true) :
    ReadLines [importLine module first names] [] (importTokens module first names) [] := by
  refine .single ?_ fun rest => ?_
  · simpa [toList_importLine, return_not_mem hmodule, return_not_mem hfirst]
      using fun n hn => return_not_mem (h n hn)
  · have hends := endsWord_furtherNames names rest
    simp only [toList_importLine, List.append_assoc, List.cons_append]
    refine .start rfl staysOut (.name rfl rfl (.blank ?_))
    refine .name hmodule rfl (.blank (.name rfl rfl (.blank ?_)))
    exact .name hfirst hends (reads_furtherNames h rest)

/-! ## Exports -/

/-- The line of a name that is exported. -/
def exportLine (name : String) : String :=
  indented 1 (Text.quoted name ++ ",")

lemma toList_exportLine {name : String} (h : isName name = true) :
    (exportLine name).toList
      = ' ' :: ' ' :: ' ' :: ' ' :: '\'' :: (name.toList ++ ['\'', ',']) := by
  simp [exportLine, toList_indented, toList_quoted_of_isName h]

lemma reads_exported {bracket : String} {brackets : List String} {columns : List Column}
    {cs ending : List Char} {ts : List Token} {r' : Reading} (h : ∀ n ∈ names, isName n = true)
    (hrest : Reads { brackets := bracket :: brackets, columns, atStart := false } cs ts r' ending) :
    Reads { brackets := bracket :: brackets, columns, atStart := false }
      (names.flatMap (fun n => (exportLine n).toList ++ ['\n']) ++ cs)
      (itemTokens names.length ++ ts) r' ending := by
  induction names with
  | nil => exact hrest
  | cons n names ih =>
    obtain ⟨hn, hnames⟩ := List.forall_mem_cons.mp h
    have hmore := ih hnames
    rw [List.flatMap_cons, toList_exportLine hn]
    simp only [List.cons_append, List.append_assoc, List.nil_append]
    refine .blank (.blank (.blank (.blank (.literal hn ?_))))
    exact .token (t := .op ",") rfl rfl rfl (.innerLine hmore)

lemma readLines_exports (h : ∀ n ∈ names, isName n = true) :
    ReadLines (exports names) [] (listTokens "__all__" names.length) [] := by
  intro more
  have hexports : exports names = "" :: "__all__ = [" :: (names.map exportLine ++ ["]"]) := rfl
  have hlines : ∀ line ∈ exports names, '\r' ∉ line.toList := by
    have hnames : ∀ n ∈ names, '\r' ∉ (exportLine n).toList := fun n hn => by
      simp [toList_exportLine (h n hn), return_not_mem (h n hn)]
    simpa [hexports, or_imp, forall_and] using hnames
  have hchars : lineChars (exports names)
      = '\n' :: (List.replicate 0 ' ' ++ ("__all__".toList ++ ' ' :: '=' :: ' ' :: '[' :: '\n' ::
        (names.flatMap (fun n => (exportLine n).toList ++ ['\n']) ++ [']', '\n']))) := by
    simp [lineChars, hexports, List.flatMap_map]
  rw [toList_unixLines_append hlines, hchars]
  simp only [List.cons_append, List.append_assoc, List.nil_append]
  refine .emptyLine (.start rfl staysOut (.name rfl rfl (.blank ?_)))
  refine .token (t := .op "=") rfl rfl rfl (.blank (.token (t := .op "[") rfl rfl rfl ?_))
  refine .innerLine (reads_exported h ?_)
  exact .token (t := .op "]") rfl rfl rfl (.lineEnd (.refl _ _))

/-! ## What comes before the classes -/

/-- The lines at the head of every module of data types. -/
def headLines : List String :=
  [indented 0 ("\"\"\"" ++ docstringText "Generated GraphQL data types. Do not edit."
      ++ "\"\"\""), "",
    importLine "__future__" "annotations" [], "",
    importLine "enum" "Enum" [], importLine "typing" "Any" ["List", "Optional", "Union"], "",
    importLine "pydantic" "BaseModel" ["ConfigDict", "Field"]]

lemma modelsOpening_eq (classes : List DataClass) : modelsOpening classes
    = headLines ++ Text.sortedSet (classes.flatMap (·.imports))
      ++ exports ((arranged classes).map (·.name)) := by
  have hlines : headLines = ["\"\"\"Generated GraphQL data types. Do not edit.\"\"\"", "",
      "from __future__ import annotations", "", "from enum import Enum",
      "from typing import Any, List, Optional, Union", "",
      "from pydantic import BaseModel, ConfigDict, Field"] := by
    decide +kernel
  rw [hlines]
  rfl

/-- What the lines at the head are: a docstring and imports. -/
def headStatements : List (List Token) :=
  [[.string false [], .newline], importTokens "__future__" "annotations" [],
    importTokens "enum" "Enum" [], importTokens "typing" "Any" ["List", "Optional", "Union"],
    importTokens "pydantic" "BaseModel" ["ConfigDict", "Field"]]

lemma readLines_headLines : ReadLines headLines [] headStatements.flatten [] := by
  have hdocstring := readLines_moduleDocstring "Generated GraphQL data types. Do not edit."
  have hannotations : ReadLines [importLine "__future__" "annotations" []] [] _ [] :=
    readLines_import rfl rfl (by decide)
  have henum : ReadLines [importLine "enum" "Enum" []] [] _ [] :=
    readLines_import rfl rfl (by decide)
  have htyping : ReadLines [importLine "typing" "Any" ["List", "Optional", "Union"]] [] _ [] :=
    readLines_import rfl rfl (by decide)
  have hmodels : ReadLines [importLine "pydantic" "BaseModel" ["ConfigDict", "Field"]] [] _ [] :=
    readLines_import rfl rfl (by decide)
  have hempty := ReadLines.emptyLine []
  exact ((((((hdocstring.append hempty).append hannotations).append hempty).append henum).append
    htyping).append hempty).append hmodels

lemma isStatement_headStatements {p : List Token} (hp : p ∈ headStatements) :
    IsStatement 15 p := by
  simp only [headStatements, List.mem_cons, List.not_mem_nil, or_false] at hp
  rcases hp with rfl | rfl | rfl | rfl | rfl
  · exact isStatement_string
  all_goals exact isStatement_import (by decide) (by decide) (by decide)

/-! ## Classes -/

/-- The class of an enum, all of whose values are names. -/
structure IsNamedEnum (c : DataClass) : Prop where
  isEnum : c.body = .enum c.body.values
  imports : c.imports = []
  name : isName c.name = true
  values : ∀ v ∈ c.body.values, isName v = true

/-- What an enum class is read as, its end included. -/
def enumStatement (c : DataClass) : List Token :=
  enumTokens c c.body.values ++ [.dedent]

lemma dataClass_of_isNamedEnum (h : IsNamedEnum c) : dataClass c = enumClass c c.body.values := by
  unfold dataClass
  rw [h.isEnum]
  rfl

/-- Enum classes are read one after the other: each ends what is open, or the text ends it. -/
lemma readLines_enumClasses (h : ∀ c ∈ classes, IsNamedEnum c) (before : List Column)
    (hsteps : reindent? {} before = some (before.map fun _ => .dedent, [])) :
    ∃ ts after, ReadLines (classes.flatMap dataClass) before ts after
      ∧ ts ++ after.map (fun _ => Token.dedent)
        = before.map (fun _ => .dedent) ++ (classes.map enumStatement).flatten := by
  induction classes generalizing before with
  | nil => exact ⟨[], before, .nil before, by simp⟩
  | cons c classes ih =>
    obtain ⟨hc, hclasses⟩ := List.forall_mem_cons.mp h
    obtain ⟨ts, after, hread, hts⟩ := ih hclasses [⟨4, 4⟩] rfl
    have hall := (readLines_enumClass hc.name hc.values hsteps).append hread
    rw [← dataClass_of_isNamedEnum hc, ← List.flatMap_cons] at hall
    refine ⟨_, after, hall, ?_⟩
    rw [List.append_assoc, hts]
    simp [enumStatement]

/-- What stands in the block of an enum class. -/
def blockParts (c : DataClass) : List (List Token) :=
  (match present? c.description? with
    | none => []
    | some _ => [[.string false [], .newline]])
  ++ match c.body.values with
    | [] => [[.name "pass", .newline]]
    | values => values.map memberTokens

lemma enumStatement_eq (c : DataClass) : enumStatement c
    = .name "class" :: .name c.name :: .op "(" :: ([.name "str", .op ",", .name "Enum", .op ")"]
      ++ .op ":" :: .newline :: .indent :: ((blockParts c).flatten ++ [.dedent])) := by
  have hblock : docstringTokens c.description? ++ bodyTokens c.body.values
      = (blockParts c).flatten := by
    unfold docstringTokens bodyTokens blockParts
    cases present? c.description? <;> cases c.body.values <;> simp [List.flatMap_def]
  simp [enumStatement, enumTokens, headTokens, hblock]

lemma isStatement_blockParts (h : ∀ v ∈ c.body.values, isName v = true) {p : List Token}
    (hp : p ∈ blockParts c) : IsStatement 15 p := by
  rcases List.mem_append.mp hp with hp | hp
  · split at hp
    · cases hp
    · rw [List.mem_singleton.mp hp]
      exact isStatement_string
  · split at hp
    · rw [List.mem_singleton.mp hp]
      exact isStatement_pass
    · obtain ⟨v, hv, rfl⟩ := List.mem_map.mp hp
      exact isStatement_member (isUsable_avoidKeyword (isIdentifier_of_isName (h v hv))).unreserved

/-- An enum class is a statement unless it is named like a keyword. -/
lemma isStatement_enumStatement (h : IsNamedEnum c) (hname : c.name ∉ keywords) :
    IsStatement 16 (enumStatement c) := by
  have hsome : blockParts c ≠ [] := by
    unfold blockParts
    cases c.body.values <;> simp
  rw [enumStatement_eq]
  exact isStatement_class hname (fun _ _ => rfl) hsome
    fun p hp => isStatement_blockParts h.values hp

lemma areStatements_enums {parts : List (List Token)}
    (hparts : ∀ p ∈ parts, IsStatement 16 p) (h : ∀ c ∈ classes, IsNamedEnum c) :
    areStatements (parts.flatten ++ (classes.map enumStatement).flatten) = true
      ↔ ∀ c ∈ classes, c.name ∉ keywords := by
  induction classes generalizing parts with
  | nil => simpa using areStatements_flatten hparts
  | cons c classes ih =>
    obtain ⟨hc, hclasses⟩ := List.forall_mem_cons.mp h
    rw [List.map_cons, List.flatten_cons, List.forall_mem_cons]
    by_cases hname : c.name ∈ keywords
    · have hnone : areStatements (parts.flatten
          ++ (enumStatement c ++ (classes.map enumStatement).flatten)) = false := by
        rw [enumStatement_eq]
        exact areStatements_append hparts (List.cons_ne_nil _ _)
          fun k => scan_class_of_mem hname k _
      simp [hnone, hname]
    · have hmoreParts : ∀ p ∈ parts ++ [enumStatement c], IsStatement 16 p := by
        intro p hp
        rcases List.mem_append.mp hp with hp | hp
        · exact hparts p hp
        · rw [List.mem_singleton.mp hp]
          exact isStatement_enumStatement hc hname
      have hmore := ih hmoreParts hclasses
      rw [List.flatten_append, List.append_assoc, List.flatten_singleton] at hmore
      rw [hmore, and_iff_right hname]

/-! ## Modules -/

lemma arranged_of_enums (h : ∀ c ∈ classes, IsNamedEnum c) :
    arranged classes = classes ∧ modelsOf classes = [] := by
  have hkind : ∀ c ∈ classes, c.body.kindName = "enum" := fun c hc => by
    rw [(h c hc).isEnum]
    rfl
  have henums : ofKind "enum" classes = classes :=
    List.filter_eq_self.mpr fun c hc => decide_eq_true (hkind c hc)
  have hnone : ∀ kind, kind ≠ "enum" → ofKind kind classes = [] := fun kind hother =>
    List.filter_eq_nil_iff.mpr fun c hc => by
      rw [hkind c hc]
      simpa using hother.symm
  have hmodels : modelsOf classes = [] := by
    unfold modelsOf
    rw [hnone "input" (by decide), hnone "model" (by decide)]
    rfl
  refine ⟨?_, hmodels⟩
  unfold arranged
  rw [henums, hmodels, List.append_nil]

/-- What a module of enums is read as. -/
def enumModule (classes : List DataClass) : List Token :=
  (headStatements ++ [listTokens "__all__" classes.length]).flatten
    ++ (classes.map enumStatement).flatten

lemma text_enumModule (h : ∀ c ∈ classes, IsNamedEnum c) (typesPackage? : Option String) :
    (ModuleContent.models classes).text typesPackage?
      = textOfLines (headLines ++ exports (classes.map (·.name)) ++ classes.flatMap dataClass) := by
  obtain ⟨harranged, hnone⟩ := arranged_of_enums h
  have himports : classes.flatMap (·.imports) = [] :=
    List.flatMap_eq_nil_iff.mpr fun c hc => (h c hc).imports
  have hwritten : (ModuleContent.models classes).written.flatMap classLines
      = classes.flatMap dataClass := by
    show ((arranged classes).map GeneratedClass.dataType).flatMap classLines = _
    rw [harranged, List.flatMap_map]
    rfl
  show textOfLines (modelsOpening classes ++ _ ++ rebuilds (modelsOf classes)) = _
  rw [hwritten, hnone, modelsOpening_eq, himports, harranged]
  show textOfLines (headLines ++ [] ++ _ ++ _ ++ []) = _
  rw [List.append_nil, List.append_nil]

lemma tokens?_enumModule (h : ∀ c ∈ classes, IsNamedEnum c) (typesPackage? : Option String) :
    tokens? ((ModuleContent.models classes).text typesPackage?) = some (enumModule classes) := by
  have hnames : ∀ n ∈ classes.map (·.name), isName n = true := by
    rw [List.forall_mem_map]
    exact fun c hc => (h c hc).name
  have hexports := readLines_exports hnames
  rw [List.length_map] at hexports
  obtain ⟨ts, after, hclasses, hts⟩ := readLines_enumClasses h [] rfl
  have hread := ((readLines_headLines.append hexports).append hclasses) []
  rw [List.append_nil] at hread
  rw [text_enumModule h, tokens?_of_reads hread, List.append_assoc, hts]
  simp [enumModule]

lemma slots_listTokens (name : String) (n : ℕ) : ∀ t ∈ listTokens name n, t.slots = [] := by
  have hitems : ∀ t ∈ itemTokens n, t.slots = [] := by
    induction n with
    | zero => exact fun t ht => absurd ht List.not_mem_nil
    | succ n ih => simpa [itemTokens, Token.slots] using ih
  simpa [listTokens, Token.slots, or_imp, forall_and] using hitems

lemma slots_enumStatement (c : DataClass) : ∀ t ∈ enumStatement c, t.slots = [] := by
  have hmembers : ∀ t ∈ bodyTokens c.body.values, t.slots = [] := by
    unfold bodyTokens
    split
    · decide
    · intro t ht
      obtain ⟨v, _, ht⟩ := List.mem_flatMap.mp ht
      simp only [memberTokens, List.mem_cons, List.not_mem_nil, or_false] at ht
      rcases ht with rfl | rfl | rfl | rfl <;> rfl
  have hdocstring : ∀ t ∈ docstringTokens c.description?, t.slots = [] := by
    unfold docstringTokens
    split <;> decide
  simpa [enumStatement, enumTokens, headTokens, Token.slots, or_imp, forall_and]
    using ⟨hdocstring, hmembers⟩

/-- There are no format strings in a module of enums. -/
lemma slots_enumModule (classes : List DataClass) : ∀ t ∈ enumModule classes, t.slots = [] := by
  intro t ht
  rcases List.mem_append.mp ht with ht | ht
  · rw [List.flatten_append, List.flatten_singleton] at ht
    rcases List.mem_append.mp ht with ht | ht
    · exact (by decide : ∀ t ∈ headStatements.flatten, t.slots = []) t ht
    · exact slots_listTokens _ _ t ht
  · obtain ⟨_, hc, ht⟩ := List.mem_flatten.mp ht
    obtain ⟨c, _, rfl⟩ := List.mem_map.mp hc
    exact slots_enumStatement c t ht

/-- A module of enums is a program exactly if none of its classes is named like a keyword. -/
theorem isProgram_enumModule (h : ∀ c ∈ classes, IsNamedEnum c) (typesPackage? : Option String) :
    isProgram ((ModuleContent.models classes).text typesPackage?) = true
      ↔ ∀ c ∈ classes, c.name ∉ keywords := by
  have hparts : ∀ p ∈ headStatements ++ [listTokens "__all__" classes.length],
      IsStatement 16 p := by
    intro p hp
    rcases List.mem_append.mp hp with hp | hp
    · exact (isStatement_headStatements hp).of_le (by decide)
    · rw [List.mem_singleton.mp hp]
      exact (isStatement_list (by decide) _).of_le (by decide)
  rw [isProgram_of_tokens (tokens?_enumModule h typesPackage?) (slots_enumModule classes)]
  exact areStatements_enums hparts h

/-! ## Null characters -/

/-- No null character comes or goes where a description is escaped. -/
lemma null_mem_escapeDocstring {cs : List Char} : '\x00' ∈ escapeDocstring cs ↔ '\x00' ∈ cs := by
  fun_induction escapeDocstring cs with
  | case1 => rfl
  | case2 cs ih | case3 cs ih => simp [ih]
  | case4 c cs _ _ ih => rw [List.mem_cons, List.mem_cons, ih]

lemma null_mem_docstringText (d : String) :
    '\x00' ∈ (docstringText d).toList ↔ '\x00' ∈ d.toList := by
  have hspace : '\x00' ∈ docstringChars d.toList ↔ '\x00' ∈ escapeDocstring d.toList := by
    unfold docstringChars
    dsimp only
    split <;> simp
  unfold docstringText
  rw [String.toList_ofList, hspace, null_mem_escapeDocstring]

lemma null_not_mem (h : isName value = true) : '\x00' ∉ value.toList :=
  fun hmem => absurd (isNamePart_of_mem_name h _ hmem) (by decide)

lemma null_mem_classDocstring (description? : Option String) :
    (∃ line ∈ classDocstring description?, '\x00' ∈ line.toList)
      ↔ ∃ d, description? = some d ∧ '\x00' ∈ d.toList := by
  cases description? with
  | none => simp [classDocstring, docstring, present?]
  | some d =>
    by_cases hd : d = ""
    · subst hd
      exact iff_of_false (by decide) (by decide)
    · have hlines : classDocstring (some d)
          = [indented 1 ("\"\"\"" ++ docstringText d ++ "\"\"\""), ""] := by
        have hpresent : present? (some d) = some d := Option.filter_eq_some_iff.mpr ⟨rfl, by simpa⟩
        unfold classDocstring docstring
        rw [hpresent]
        rfl
      simp [hlines, toList_indented, null_mem_docstringText]

/-- The only text in the class of an enum that may have a null character is its description. -/
lemma null_mem_dataClass (h : IsNamedEnum c) :
    (∃ line ∈ dataClass c, '\x00' ∈ line.toList)
      ↔ ∃ d, c.description? = some d ∧ '\x00' ∈ d.toList := by
  have hmembers : ¬ ∃ line ∈ enumMembers c.body.values, '\x00' ∈ line.toList := by
    have hvalues := h.values
    rintro ⟨line, hline, hmem⟩
    unfold enumMembers at hline
    split at hline
    · rw [List.mem_singleton.mp hline] at hmem
      revert hmem
      decide
    · obtain ⟨v, hv, rfl⟩ := List.mem_map.mp hline
      have hv := hvalues v hv
      simp [toList_indented, toList_quoted_of_isName hv, null_not_mem hv,
        null_not_mem (isName_avoidKeyword hv)] at hmem
  rw [dataClass_of_isNamedEnum h, ← null_mem_classDocstring]
  unfold enumClass
  simp only [List.mem_append, or_and_right, exists_or, hmembers, or_false]
  refine or_iff_right ?_
  simp [null_not_mem h.name]

lemma null_mem_enumModule (h : ∀ c ∈ classes, IsNamedEnum c) (typesPackage? : Option String) :
    '\x00' ∈ ((ModuleContent.models classes).text typesPackage?).toList
      ↔ ∃ c ∈ classes, ∃ d, c.description? = some d ∧ '\x00' ∈ d.toList := by
  have hhead : ¬ ∃ line ∈ headLines, '\x00' ∈ line.toList := by decide +kernel
  have hexports : ¬ ∃ line ∈ exports (classes.map (·.name)), '\x00' ∈ line.toList := by
    rintro ⟨line, hline, hmem⟩
    have hexports : exports (classes.map (·.name))
        = "" :: "__all__ = [" :: ((classes.map (·.name)).map exportLine ++ ["]"]) := rfl
    simp only [hexports, List.mem_cons, List.mem_append, List.mem_map, List.not_mem_nil,
      or_false] at hline
    rcases hline with rfl | rfl | ⟨_, ⟨c, hc, rfl⟩, rfl⟩ | rfl
    · revert hmem; decide
    · revert hmem; decide
    · simp [toList_exportLine (h c hc).name, null_not_mem (h c hc).name] at hmem
    · revert hmem; decide
  rw [text_enumModule h, mem_textOfLines (by decide)]
  simp only [List.mem_append, or_and_right, exists_or, hhead, hexports, false_or, List.mem_flatMap]
  constructor
  · rintro ⟨line, ⟨c, hc, hline⟩, hmem⟩
    exact ⟨c, hc, (null_mem_dataClass (h c hc)).mp ⟨line, hline, hmem⟩⟩
  · rintro ⟨c, hc, hdescription⟩
    obtain ⟨line, hline, hmem⟩ := (null_mem_dataClass (h c hc)).mpr hdescription
    exact ⟨line, ⟨c, hc, hline⟩, hmem⟩

/-- The file of a module of enums is made exactly if no enum is named like a keyword, and no
description has a null character. -/
theorem exists_moduleFile_enums_iff {package : String} {typesPackage? : Option String}
    (h : ∀ c ∈ classes, IsNamedEnum c) :
    (∃ f, moduleFile {} typesPackage? ⟨package, .models classes⟩ = .ok f)
      ↔ ∀ c ∈ classes, c.name ∉ keywords ∧ ∀ d, c.description? = some d → '\x00' ∉ d.toList := by
  rw [exists_moduleFile_iff, text_of_no_templates, isProgram_enumModule h, null_mem_enumModule h]
  constructor
  · rintro ⟨hnull, hnames⟩ c hc
    exact ⟨hnames c hc, fun d hd hmem => hnull ⟨c, hc, d, hd, hmem⟩⟩
  · intro hall
    exact ⟨fun ⟨c, hc, d, hd, hmem⟩ => (hall c hc).2 d hd hmem, fun c hc => (hall c hc).1⟩

end ClientGen.Render
