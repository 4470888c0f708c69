import ClientGen.Proofs.Text.Parts
import ClientGen.Render.Package

/-!
# Paths of packages

A package whose name has no slash has a directory of its own: the way to it can be read off the
paths of its files. The packages on the way to it are those whose way is a beginning of its own.

* `parts_filePath` and `eq_of_filePath` take the path of a file apart.
* `mem_ancestors_or_self` says which packages lie on the way to a package.
-/

namespace ClientGen

/-- There is no slash in a text. -/
def Slashless (s : String) : Prop := '/' ∉ s.toList

instance (s : String) : Decidable (Slashless s) := inferInstanceAs (Decidable ('/' ∉ s.toList))

namespace Slashless

variable {s t : String}

lemma append (hs : Slashless s) (ht : Slashless t) : Slashless (s ++ t) := by
  unfold Slashless at hs ht ⊢
  simp [String.toList_append, hs, ht]

/-- It is enough to look at the parts of a dotted name. -/
lemma iff_parts : Slashless s ↔ ∀ t ∈ Text.parts '.' s, Slashless t := by
  constructor
  · exact fun h t ht hslash => h (Text.of_mem_parts ht hslash).1
  · intro h hslash
    obtain ⟨t, ht, hmem⟩ := Text.mem_parts_iff.mpr ⟨hslash, (by decide : '/' ≠ '.')⟩
    exact h t ht hmem

/-- A package on the way to one without a slash has none either. -/
lemma of_beginning (h : Slashless s) (hbegins : Text.parts '.' t <+: Text.parts '.' s) :
    Slashless t :=
  iff_parts.mpr fun u hu => iff_parts.mp h u (hbegins.subset hu)

end Slashless

namespace Render

variable {package package' name name' : String}

/-! ## Ways and paths -/

/-- A way of at least one step can be read off its path. -/
lemma parts_joinedPath {way : List String} (hway : way ≠ []) (h : ∀ s ∈ way, Slashless s) :
    Text.parts '/' (joinedPath way) = way :=
  Text.parts_intercalate hway h

/-- The path of a file in the directory of a package. -/
def filePath (package name : String) : String :=
  joinedPath (Text.parts '.' package ++ [name])

lemma filePath_eq (package name : String) :
    filePath package name = PackageModule.directoryOf package ++ "/" ++ name := by
  unfold filePath joinedPath PackageModule.directoryOf
  rw [String.intercalate_append_of_ne_nil (Text.parts_ne_nil '.' package) (List.cons_ne_nil _ _),
    String.intercalate_singleton]

lemma PackageModule.path_eq (m : PackageModule) :
    m.path = filePath m.package (m.name ++ ".py") := by
  rw [filePath_eq, ← String.append_assoc]
  rfl

lemma packageFile_path (modules : List PackageModule) (package : String) :
    (packageFile modules package).path = filePath package "__init__.py" := by
  have hsplit : "/__init__.py" = "/" ++ "__init__.py" := by decide
  show PackageModule.directoryOf package ++ "/__init__.py" = _
  rw [filePath_eq, hsplit, String.append_assoc]

/-- The way to a file is that to its package, and the file. -/
lemma parts_filePath (hpackage : Slashless package) (hname : Slashless name) :
    Text.parts '/' (filePath package name) = Text.parts '.' package ++ [name] := by
  apply parts_joinedPath (List.append_ne_nil_of_right_ne_nil _ (List.cons_ne_nil _ _))
  intro s hs
  rcases List.mem_append.mp hs with hs | hs
  · exact Slashless.iff_parts.mp hpackage s hs
  · rwa [List.mem_singleton.mp hs]

/-- Packages are told apart by their ways. -/
lemma parts_injective : Function.Injective (Text.parts '.') := by
  intro package package' h
  rw [← Text.intercalate_parts '.' package, h, Text.intercalate_parts]

/-- The path of a file stands for one package and one name. -/
lemma eq_of_filePath (hpackage : Slashless package) (hname : Slashless name)
    (hpackage' : Slashless package') (hname' : Slashless name')
    (h : filePath package name = filePath package' name') : package = package' ∧ name = name' := by
  have hparts := congrArg (Text.parts '/') h
  rw [parts_filePath hpackage hname, parts_filePath hpackage' hname'] at hparts
  obtain ⟨hways, hnames⟩ := List.append_inj' hparts rfl
  exact ⟨parts_injective hways, (List.cons.inj hnames).1⟩

/-! ## Packages on the way -/

/-- What a beginning of the way to a package leads to. -/
lemma parts_intercalate_of_beginning {way : List String} (hway : way ≠ [])
    (h : way <+: Text.parts '.' package) : Text.parts '.' (".".intercalate way) = way :=
  Text.parts_intercalate hway fun _ hs hdot => (Text.of_mem_parts (h.subset hs) hdot).2 rfl

/-- The packages on the way to a package, and the package itself, are those whose ways it goes on
from. -/
theorem mem_ancestors_or_self :
    package' ∈ ancestors package ++ [package]
      ↔ Text.parts '.' package' <+: Text.parts '.' package := by
  unfold ancestors
  rw [List.mem_append, List.mem_singleton]
  constructor
  · rintro (h | rfl)
    · obtain ⟨i, hi, rfl⟩ := List.mem_map.mp h
      have hbegins := List.take_prefix (i + 1) (Text.parts '.' package)
      rwa [parts_intercalate_of_beginning _ hbegins]
      have hparts := Text.parts_ne_nil '.' package
      simpa using hparts
    · exact List.prefix_rfl
  · intro h
    obtain hlength | hlength := Nat.lt_or_eq_of_le h.length_le
    · left
      have hpos := List.length_pos_iff.mpr (Text.parts_ne_nil '.' package')
      refine List.mem_map.mpr ⟨(Text.parts '.' package').length - 1, ?_, ?_⟩
      · rw [List.mem_range]
        omega
      · rw [Nat.sub_add_cancel hpos, ← List.prefix_iff_eq_take.mp h]
        exact Text.intercalate_parts '.' package'
    · exact .inr (parts_injective (h.eq_of_length hlength))

end Render

end ClientGen
