import ClientGen.Proofs.Text.Parts
import ClientGen.Scalars

/-!
# Paths of scalar types

The type of a scalar is named by a path, a row of identifiers with single dots between them. The
last one is the type; those before it are the module from which it is imported, and without them
it is built in. The path can be read off the type, as its module stands in the import statement.

All paths are taken, and no other text but one: where only a dot stands before an identifier, the
module is empty, and the dot is forgotten.

* `isTypePath_iff`: what a path is, by the parts of a text.
* `ofPath_exactly`: which texts are taken, and as what.
* `forgottenDot_taken`: a text that is no path.
-/

namespace ClientGen

open ClientGen.Text (isIdentifier isIdentifierChars isIdentifierPart)

/-- Some identifiers, at least one, which stand in a text with single dots between them. -/
structure IsTypePath (names : List String) (path : String) : Prop where
  some : names ≠ []
  identifiers : ∀ n ∈ names, isIdentifier n = true
  joined : path = ".".intercalate names

variable {path name : String} {way names : List String}

/-! ## Characters of identifiers -/

lemma dot_not_mem (h : isIdentifier name = true) : '.' ∉ name.toList :=
  Text.not_mem_of_isIdentifier (by decide +kernel) h

lemma blank_not_mem (h : isIdentifier name = true) : ' ' ∉ name.toList :=
  Text.not_mem_of_isIdentifier (by decide +kernel) h

/-! ## Paths -/

/-- The identifiers of a path are its parts between the dots. -/
theorem isTypePath_iff :
    IsTypePath names path
      ↔ names = Text.parts '.' path ∧ ∀ n ∈ Text.parts '.' path, isIdentifier n = true := by
  constructor
  · rintro ⟨hsome, hidentifiers, rfl⟩
    have hparts : Text.parts '.' (".".intercalate names) = names :=
      Text.parts_intercalate hsome fun n hn => dot_not_mem (hidentifiers n hn)
    rw [hparts]
    exact ⟨rfl, hidentifiers⟩
  · rintro ⟨rfl, hidentifiers⟩
    exact ⟨Text.parts_ne_nil '.' path, hidentifiers, (Text.intercalate_parts '.' path).symm⟩

lemma isTypePath_single (h : isIdentifier name = true) : IsTypePath [name] name :=
  isTypePath_iff.mpr (by simp [Text.parts_of_not_mem (dot_not_mem h), h])

/-- The parts of a text with a last dot are those before the dot, and what follows it. -/
lemma parts_of_last_dot (before : String) (h : '.' ∉ name.toList) :
    Text.parts '.' (before ++ "." ++ name) = Text.parts '.' before ++ [name] := by
  rw [← Text.parts_of_not_mem h]
  exact Text.parts_append '.' before name

/-- No path begins with a dot. -/
lemma not_isTypePath_of_dot (h : '.' ∉ name.toList) : ¬ IsTypePath names ("." ++ name) := by
  intro hpath
  have hempty : Text.parts '.' "" = [""] := Text.parts_of_not_mem (by decide)
  have hparts : Text.parts '.' ("." ++ name) = ["", name] := by
    have hlast := parts_of_last_dot "" h
    rwa [hempty, String.empty_append] at hlast
  have hidentifiers := (isTypePath_iff.mp hpath).2
  rw [hparts] at hidentifiers
  exact absurd (hidentifiers "" List.mem_cons_self) (by decide)

/-! ## Texts that are taken -/

namespace ScalarType

lemma ofPath_of_not_mem (h : '.' ∉ path.toList) :
    ofPath path = if isIdentifier path then .ok ⟨path, none⟩ else .error ⟨path⟩ := by
  unfold ofPath isIdentifier
  rw [Text.cutLast?_eq_none h]
  cases hpath : isIdentifierChars path.toList <;> simp [hpath]

lemma ofPath_of_last_dot (before : String) (h : '.' ∉ name.toList) :
    ofPath (before ++ "." ++ name)
      = if isIdentifier name ∧ before = "" then .ok ⟨name, none⟩
        else if isIdentifier name ∧ ∀ n ∈ Text.parts '.' before, isIdentifier n
          then .ok (imported before name)
        else .error ⟨before ++ "." ++ name⟩ := by
  have hchars : (before ++ "." ++ name).toList = before.toList ++ '.' :: name.toList := by simp
  have hparts : (Text.splitAt '.' before.toList).all isIdentifierChars = true
      ↔ ∀ n ∈ Text.parts '.' before, isIdentifier n = true := by
    simp [Text.parts, isIdentifier]
  unfold ofPath
  rw [hchars, Text.cutLast?_eq_some h]
  cases hname : isIdentifier name <;> unfold isIdentifier at hname
  · simp [hname]
  · by_cases hbefore : before = "" <;> simp [hname, hparts, hbefore]

/-- The type at the end of some identifiers: what stands before it is its module. -/
def atEnd (way : List String) (name : String) : ScalarType where
  typeName := name
  importStatement? :=
    if way = [] then none else some ("from " ++ ".".intercalate way ++ " import " ++ name)

/-- A path stands for the type at its end. -/
theorem ofPath_of_isTypePath (h : IsTypePath (way ++ [name]) path) :
    ofPath path = .ok (atEnd way name) := by
  obtain ⟨-, hidentifiers, rfl⟩ := h
  have hname : isIdentifier name = true := hidentifiers name (by simp)
  have hway : ∀ n ∈ way, isIdentifier n = true :=
    fun n hn => hidentifiers n (List.mem_append_left _ hn)
  unfold atEnd
  by_cases hnone : way = []
  · rw [hnone, List.nil_append, String.intercalate_singleton,
      ofPath_of_not_mem (dot_not_mem hname), if_pos hname]
    rfl
  · have hparts : Text.parts '.' (".".intercalate way) = way :=
      Text.parts_intercalate hnone fun n hn => dot_not_mem (hway n hn)
    have hbefore : ".".intercalate way ≠ "" := by
      intro hempty
      rw [hempty, Text.parts_of_not_mem (by decide)] at hparts
      exact absurd (hway "" (hparts ▸ List.mem_cons_self)) (by decide)
    rw [String.intercalate_append_of_ne_nil hnone (List.cons_ne_nil _ _),
      String.intercalate_singleton, ofPath_of_last_dot _ (dot_not_mem hname), hparts,
      if_neg fun hand => hbefore hand.2, if_pos ⟨hname, hway⟩, if_neg hnone]
    rfl

/-- A dot before an identifier is forgotten. -/
theorem ofPath_of_forgotten_dot (h : isIdentifier name = true) :
    ofPath ("." ++ name) = .ok ⟨name, none⟩ := by
  have hdot := ofPath_of_last_dot "" (dot_not_mem h)
  rwa [String.empty_append, if_pos ⟨h, rfl⟩] at hdot

/-- No other text is taken. -/
lemma cases_of_ofPath {t : ScalarType} (h : ofPath path = .ok t) :
    (∃ names, IsTypePath names path) ∨ ∃ name, isIdentifier name = true ∧ path = "." ++ name := by
  by_cases hdot : '.' ∈ path.toList
  · obtain ⟨before, name, rfl, hlast⟩ := Text.exists_last_separator hdot
    rw [show String.singleton '.' = "." from rfl, ofPath_of_last_dot before hlast] at h
    split at h
    · rename_i hforgotten
      exact .inr ⟨name, hforgotten.1, by rw [hforgotten.2]; rfl⟩
    · split at h
      · rename_i htaken
        refine .inl ⟨_, isTypePath_iff.mpr ⟨rfl, ?_⟩⟩
        rw [show String.singleton '.' = "." from rfl, parts_of_last_dot before hlast]
        intro n hn
        rcases List.mem_append.mp hn with hn | hn
        · exact htaken.2 n hn
        · exact List.mem_singleton.mp hn ▸ htaken.1
      · cases h
  · rw [ofPath_of_not_mem hdot] at h
    split at h
    · rename_i hidentifier
      exact .inl ⟨[path], isTypePath_single hidentifier⟩
    · cases h

/-- A refusal names the text. -/
lemma eq_of_ofPath_error {e : ScalarPathError} (h : ofPath path = .error e) : e = ⟨path⟩ := by
  unfold ofPath at h
  dsimp only at h
  split at h
  · cases h
    rfl
  · split at h
    · cases h
    · split at h
      · cases h
      · cases h
        rfl

/-! ## Reading a path off a type -/

/-- The path of a type: its name, after the module that the second word of the import statement
names. -/
def importPath (t : ScalarType) : String :=
  match t.importStatement?.map (Text.parts ' ') with
  | some [_, module, _, _] => module ++ "." ++ t.typeName
  | _ => t.typeName

/-- An import statement has four words, unless there are blanks in its names. -/
lemma parts_importStatement {module : String} (hmodule : ' ' ∉ module.toList)
    (hname : ' ' ∉ name.toList) :
    Text.parts ' ' ("from " ++ module ++ " import " ++ name) = ["from", module, "import", name] := by
  have hwords : " ".intercalate ["from", module, "import", name]
      = "from " ++ module ++ " import " ++ name := by
    apply String.toList_injective
    simp
  rw [← hwords]
  refine Text.parts_intercalate (List.cons_ne_nil _ _) fun s hs => ?_
  simp only [List.mem_cons, List.not_mem_nil, or_false] at hs
  rcases hs with rfl | rfl | rfl | rfl
  · decide
  · exact hmodule
  · decide
  · exact hname

/-- The path of the type at the end of some identifiers are these identifiers. -/
lemma importPath_atEnd (hway : ∀ n ∈ way, isIdentifier n = true) (hname : isIdentifier name = true) :
    (atEnd way name).importPath = ".".intercalate (way ++ [name]) := by
  unfold importPath atEnd
  by_cases hnone : way = []
  · rw [hnone]
    rfl
  · have hmodule : ' ' ∉ (".".intercalate way).toList := by
      intro hblank
      have hparts : Text.parts '.' (".".intercalate way) = way :=
        Text.parts_intercalate hnone fun n hn => dot_not_mem (hway n hn)
      obtain ⟨n, hn, hmem⟩ := Text.mem_parts_iff.mpr ⟨hblank, (by decide : ' ' ≠ '.')⟩
      exact blank_not_mem (hway n (hparts ▸ hn)) hmem
    simp only [if_neg hnone, Option.map_some, parts_importStatement hmodule (blank_not_mem hname)]
    rw [String.intercalate_append_of_ne_nil hnone (List.cons_ne_nil _ _),
      String.intercalate_singleton]

/-! ## All texts -/

/-- A text is taken for a type exactly if it is a path, or an identifier after a lone dot. A path
stands for its last identifier, which is imported from the module that the others name and is built
in if there are none; the lone dot is forgotten, as if it were not there. All other texts are
refused with the message that names them. Of the texts that are taken, those that the type leads
back to are the paths. -/
theorem ofPath_exactly (path : String) :
    (∀ way name, IsTypePath (way ++ [name]) path → ofPath path = .ok (atEnd way name))
      ∧ (∀ name, isIdentifier name = true → path = "." ++ name → ofPath path = .ok ⟨name, none⟩)
      ∧ ((∃ t, ofPath path = .ok t) ↔ (∃ names, IsTypePath names path)
        ∨ ∃ name, isIdentifier name = true ∧ path = "." ++ name)
      ∧ (∀ e, ofPath path = .error e → e.message = "Invalid type path: " ++ Text.quoted path)
      ∧ ∀ t, ofPath path = .ok t → (t.importPath = path ↔ ∃ names, IsTypePath names path) := by
  refine ⟨fun way name => ofPath_of_isTypePath, ?_, ⟨?_, ?_⟩, ?_, fun t ht => ⟨?_, ?_⟩⟩
  · rintro name hname rfl
    exact ofPath_of_forgotten_dot hname
  · rintro ⟨t, ht⟩
    exact cases_of_ofPath ht
  · rintro (⟨names, hpath⟩ | ⟨name, hname, rfl⟩)
    · obtain ⟨way, name, rfl⟩ := List.eq_nil_or_concat' names |>.resolve_left hpath.some
      exact ⟨_, ofPath_of_isTypePath hpath⟩
    · exact ⟨_, ofPath_of_forgotten_dot hname⟩
  · intro e he
    rw [eq_of_ofPath_error he]
    rfl
  · intro hback
    rcases cases_of_ofPath ht with hpath | ⟨name, hname, rfl⟩
    · exact hpath
    · -- the dot is not in the type
      rw [ofPath_of_forgotten_dot hname, Except.ok.injEq] at ht
      rw [← ht] at hback
      have hlength := congrArg String.length hback
      simp [importPath] at hlength
  · rintro ⟨names, hpath⟩
    obtain ⟨way, name, rfl⟩ := List.eq_nil_or_concat' names |>.resolve_left hpath.some
    rw [ofPath_of_isTypePath hpath, Except.ok.injEq] at ht
    rw [← ht, importPath_atEnd (fun n hn => hpath.identifiers n (by simp [hn]))
      (hpath.identifiers name (by simp)), hpath.joined]

/-- A lone dot before an identifier makes no path, but a text that is taken. -/
theorem forgottenDot_taken :
    ofPath ".Decimal" = .ok ⟨"Decimal", none⟩ ∧ ¬ ∃ names, IsTypePath names ".Decimal" := by
  have hname : isIdentifier "Decimal" = true := by decide +kernel
  exact ⟨ofPath_of_forgotten_dot hname,
    fun ⟨_, hpath⟩ => not_isTypePath_of_dot (dot_not_mem hname) hpath⟩

end ScalarType

end ClientGen
