import ClientGen.Proofs.DataTypes.Hints
import ClientGen.Proofs.Render.Bindings
import Mathlib.Data.List.TakeWhile

/-!
# The names in a hint

A hint is made of names with brackets and commas between them. Each is there for something: the
names of lists, unions and of what is optional for those of `typing`, the types of built-in scalars
for what is built in, the type of a custom scalar for what its import makes of it, and the types of
the schema for their classes.

* `hintNames` reads the names off the text, and `meant` says what they are there for.
* `hintNames_hint` ties one to the other, and `origin_of_mem_meant` says where what is meant is from.
-/

namespace ClientGen

open ClientGen.Document.Token (isName)
open ClientGen.Naming (isNamePart_of_mem_name)

namespace Render

/-! ## Reading names -/

/-- Stands between the names of a hint. -/
def isHintMark (c : Char) : Bool :=
  c == '[' || c == ']' || c == ',' || c == ' ' || c == '|'

/-- The names in a hint, in order; of a dotted path the one at its beginning. -/
def hintNames (hint : String) : List String :=
  ((hint.toList.splitOnP isHintMark).filter (!·.isEmpty)).map fun word => topName (String.ofList word)

variable {name hint : String} {names : List String} {mark : Char}

lemma hintNames_append (before after : String) (h : isHintMark mark = true) :
    hintNames (before ++ String.singleton mark ++ after) = hintNames before ++ hintNames after := by
  unfold hintNames
  simp only [String.toList_append, String.toList_singleton, List.append_assoc, List.singleton_append]
  rw [List.splitOnP_append_cons _ _ h, List.filter_append, List.map_append]

/-- A name of the grammar is one name. -/
lemma hintNames_of_isName (h : isName name = true) : hintNames name = [name] := by
  have hchars : ∀ c ∈ name.toList, isHintMark c = false ∧ (c != '.') = true := fun c hc => by
    have hpart := Naming.forall_isNamePart (p := fun c => !isHintMark c && c != '.')
      (by decide +kernel) (isNamePart_of_mem_name h c hc)
    simpa using hpart
  obtain ⟨c, cs, hcons, -⟩ := Document.Token.isName_cases h
  have htop : topName name = name := by
    unfold topName
    rw [List.takeWhile_eq_self_iff.mpr fun c hc => (hchars c hc).2, String.ofList_toList]
  unfold hintNames
  have hsome : [name.toList].filter (!·.isEmpty) = [name.toList] :=
    List.filter_cons_of_pos (by simp [hcons])
  rw [List.splitOnP_eq_singleton fun c hc => (hchars c hc).1, hsome, List.map_singleton,
    String.ofList_toList, htop]

/-- What stands in brackets comes after the name in front of them. -/
lemma hintNames_bracketed {opening : String} (h : isName name = true)
    (hopening : opening = name ++ "[") (hint : String) :
    hintNames (opening ++ hint ++ "]") = name :: hintNames hint := by
  have hempty : hintNames "" = [] := by decide
  have hclosing := hintNames_append (name ++ "[" ++ hint) "" (by decide : isHintMark ']' = true)
  have hfirst := hintNames_append name hint (by decide : isHintMark '[' = true)
  rw [String.append_empty, hempty, List.append_nil] at hclosing
  rw [hintNames_of_isName h] at hfirst
  rw [hopening]
  exact hclosing.trans hfirst

/-- Names with commas between them. -/
lemma hintNames_commas (h : ∀ n ∈ names, isName n = true) :
    hintNames (", ".intercalate names) = names := by
  induction names with
  | nil => decide
  | cons n names ih =>
    obtain ⟨hn, hnames⟩ := List.forall_mem_cons.mp h
    by_cases hlast : names = []
    · rw [hlast, String.intercalate_singleton, hintNames_of_isName hn]
    · have hcomma : ", ".intercalate (n :: names)
          = n ++ String.singleton ',' ++ ("" ++ String.singleton ' ' ++ ", ".intercalate names) := by
        rw [String.intercalate_cons_of_ne_nil hlast]
        apply String.toList_injective
        simp
      have hempty : hintNames "" = [] := by decide
      rw [hcomma, hintNames_append _ _ (by decide), hintNames_append _ _ (by decide), hempty,
        hintNames_of_isName hn, ih hnames]
      rfl

end Render

open Render

/-! ## What the names are there for -/

namespace TypeScope

variable {s : TypeScope} {name : String}

/-- What the names in a union of types are there for. -/
def meantTypes : List String → List (String × Meaning)
  | [] => [("Any", .path "typing.Any")]
  | [t] => [(t, .dataType)]
  | ts => ("Union", .path "typing.Union") :: ts.map fun t => (t, .dataType)

/-- The names in the hint for a type by itself, each with what it is there for. The names of a
custom scalar are there for what they stand for after its import alone. -/
def meantBy (s : TypeScope) (name : String) : List (String × Meaning) :=
  match Entries.get? name builtinTypes with
  | some t => [(t, .builtin)]
  | none =>
    match s.scalars.get? name with
    | some scalar =>
      (hintNames scalar.typeName).map fun w => (w, meaning scalar.importStatement?.toList w)
    | none => meantTypes ((s.hintedTypes name).map (·.name))

/-- The names in a hint, each with what it is there for. -/
def meant (s : TypeScope) (name : String) (isList isOptional : Bool) : List (String × Meaning) :=
  (if isOptional && s.hint name isList false ≠ "Any" then [("Optional", .path "typing.Optional")]
    else [])
  ++ (if isList then [("List", .path "typing.List")] else []) ++ s.meantBy name

lemma hintNames_unionHint {types : List String} (h : ∀ t ∈ types, isName t = true) :
    hintNames (unionHint types) = (meantTypes types).map (·.1) := by
  match types with
  | [] => decide
  | [t] => exact hintNames_of_isName (h t List.mem_cons_self)
  | t :: u :: types =>
    have hunion := hintNames_bracketed (by decide : isName "Union" = true) (by decide : "Union[" = _)
      (", ".intercalate (t :: u :: types))
    rw [hintNames_commas h] at hunion
    simpa [meantTypes, unionHint, Function.comp_def] using hunion

/-- The types that a hint names are types of the schema. -/
lemma mem_types_of_mem_hintedTypes {t : TypeDef} (h : t ∈ s.hintedTypes name) :
    t ∈ s.schema.types := by
  obtain ⟨u, hfound, rfl | ⟨-, hmember⟩⟩ := mem_hintedTypes_cases h
  · exact Schema.findType?_mem hfound
  · exact Schema.findType?_mem (Schema.findType?_of_mem_unionMembers hmember)

lemma hintNames_typeName (hnames : ∀ t ∈ s.schema.types, isName t.name = true) :
    hintNames (s.typeName name) = (s.meantBy name).map (·.1) := by
  unfold meantBy
  cases hbuiltin : Entries.get? name builtinTypes with
  | some t =>
    have hall : ∀ e ∈ builtinTypes, hintNames e.2 = [e.2] := by decide
    have hname := hall _ (Entries.mem_of_get?_eq_some hbuiltin)
    simpa [typeName, hbuiltin] using hname
  | none =>
    cases hscalar : s.scalars.get? name with
    | some scalar => simp [typeName, hbuiltin, hscalar, Function.comp_def]
    | none =>
      rw [typeName_eq_unionHint hbuiltin hscalar]
      refine hintNames_unionHint fun t ht => ?_
      obtain ⟨u, hu, rfl⟩ := List.mem_map.mp ht
      exact hnames u (mem_types_of_mem_hintedTypes hu)

/-- The names that are read off a hint are those that it is made of. -/
theorem hintNames_hint (hnames : ∀ t ∈ s.schema.types, isName t.name = true) (name : String)
    (isList isOptional : Bool) :
    hintNames (s.hint name isList isOptional) = (s.meant name isList isOptional).map (·.1) := by
  have hlisted : hintNames (s.hint name isList false)
      = (if isList then ["List"] else []) ++ (s.meantBy name).map (·.1) := by
    rw [← hintNames_typeName hnames]
    cases isList with
    | false => rfl
    | true => exact hintNames_bracketed (by decide) (by decide : "List[" = "List" ++ "[") _
  have hhint : s.hint name isList isOptional
      = if isOptional && s.hint name isList false ≠ "Any"
        then "Optional[" ++ s.hint name isList false ++ "]" else s.hint name isList false := rfl
  have hlist : (if isList then [("List", Meaning.path "typing.List")] else []).map (·.1)
      = if isList then ["List"] else [] := by cases isList <;> rfl
  unfold meant
  rw [hhint, List.append_assoc, List.map_append, List.map_append, hlist, ← hlisted]
  cases isOptional && decide (s.hint name isList false ≠ "Any") with
  | false => rfl
  | true => exact hintNames_bracketed (by decide) (by decide : "Optional[" = "Optional" ++ "[") _

/-! ## Where the names come from -/

/-- What a name in a hint is there for: it is built in, or is a class, or every module of data types
imports it, or the import of the type binds it. -/
inductive Origin (imports : List String) (b : String × Meaning) : Prop where
  | builtin (h : b.2 = .builtin)
  | dataType (h : b.2 = .dataType)
  | fixed (h : b ∈ fixedNames)
  | imported (h : ∃ b' ∈ imports.flatMap bindings, b'.1 = b.1)

variable {b : String × Meaning}

lemma origin_of_mem_meantTypes {imports types : List String} (h : b ∈ meantTypes types) :
    Origin imports b := by
  match types with
  | [] => exact .fixed (List.mem_singleton.mp h ▸ by decide)
  | [t] => exact .dataType (List.mem_singleton.mp h ▸ rfl)
  | t :: u :: types =>
    rcases List.mem_cons.mp h with rfl | h
    · exact .fixed (by decide)
    · obtain ⟨_, -, rfl⟩ := List.mem_map.mp h
      exact .dataType rfl

lemma origin_of_mem_meantBy (h : b ∈ s.meantBy name) : Origin (s.importsFor name) b := by
  unfold meantBy at h
  unfold importsFor
  cases hbuiltin : Entries.get? name builtinTypes with
  | some t =>
    rw [hbuiltin] at h
    exact .builtin (List.mem_singleton.mp h ▸ rfl)
  | none =>
    rw [hbuiltin] at h
    cases hscalar : s.scalars.get? name with
    | some scalar =>
      rw [hscalar] at h
      obtain ⟨w, -, rfl⟩ := List.mem_map.mp h
      by_cases hbinds : ∃ b' ∈ scalar.importStatement?.toList.flatMap bindings, b'.1 = w
      · exact .imported hbinds
      · exact .builtin (meaning_eq_builtin fun b' hb' hw => hbinds ⟨b', hb', hw⟩)
    | none =>
      rw [hscalar] at h
      exact origin_of_mem_meantTypes h

/-- Each name in a hint has its origin. -/
theorem origin_of_mem_meant {isList isOptional : Bool} (h : b ∈ s.meant name isList isOptional) :
    Origin (s.importsFor name) b := by
  have hfixed : ∀ {p : Prop} [Decidable p] {e : String × Meaning}, e ∈ fixedNames →
      b ∈ (if p then [e] else []) → Origin (s.importsFor name) b := by
    intro p _ e he hb
    split at hb
    · exact .fixed (List.mem_singleton.mp hb ▸ he)
    · cases hb
  rcases List.mem_append.mp h with h | h
  · rcases List.mem_append.mp h with h | h
    · exact hfixed (by decide) h
    · exact hfixed (by decide) h
  · exact origin_of_mem_meantBy h

end TypeScope

end ClientGen
