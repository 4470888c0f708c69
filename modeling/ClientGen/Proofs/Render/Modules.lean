import ClientGen.Proofs.Render.Paths
import Mathlib.Data.List.Nodup

/-!
# Modules of an output

The classes of an output are divided among its modules: one package and one category, one module.
The packages with files are those on the way to a module.

* `units_of_mem_modulesOf` says what is in a module, and `exists_module` that each class is in one.
* `mem_packagesOf` says which packages have files.
-/

namespace ClientGen

/-! ## Classes and modules -/

/-- The name of the module for the category of a class. -/
def GeneratedClass.moduleName : GeneratedClass → String
  | query _ => "queries"
  | projection _ => "projections"
  | dataType _ => "models"

lemma GeneratedClass.moduleName_cases (u : GeneratedClass) :
    u.moduleName = "queries" ∨ u.moduleName = "projections" ∨ u.moduleName = "models" := by
  cases u with
  | query => exact .inl rfl
  | projection => exact .inr (.inl rfl)
  | dataType => exact .inr (.inr rfl)

/-- The path of the module of a class: the way to its package, and the module of its category. -/
def GeneratedClass.modulePath (u : GeneratedClass) : String :=
  Render.filePath u.package (u.moduleName ++ ".py")

/-- The classes of a package and a category, in order. -/
def Output.unitsIn (o : Output) (package module : String) : List GeneratedClass :=
  o.classes.filter fun u => u.package = package ∧ u.moduleName = module

namespace Render

/-- The classes of a module, in the order of the output. -/
def ModuleContent.units : ModuleContent → List GeneratedClass
  | queries classes => classes.map .query
  | projections classes => classes.map .projection
  | models classes => classes.map .dataType

variable {c : Config} {o : Output} {m : PackageModule} {package : String}

lemma unitsIn_queries (o : Output) (package : String) :
    o.unitsIn package "queries" = (o.queries.filter (·.package = package)).map .query := by
  simp [Output.unitsIn, Output.classes, List.filter_map, Function.comp_def,
    GeneratedClass.package, GeneratedClass.moduleName]

lemma unitsIn_projections (o : Output) (package : String) :
    o.unitsIn package "projections"
      = (o.projections.filter (·.package = package)).map .projection := by
  simp [Output.unitsIn, Output.classes, List.filter_map, Function.comp_def,
    GeneratedClass.package, GeneratedClass.moduleName]

lemma unitsIn_models (o : Output) (package : String) :
    o.unitsIn package "models" = (o.dataTypes.filter (·.package = package)).map .dataType := by
  simp [Output.unitsIn, Output.classes, List.filter_map, Function.comp_def,
    GeneratedClass.package, GeneratedClass.moduleName]

/-- The members of a list that share a package with one of them. -/
private lemma sharing_ne_nil {α : Type} {packageOf : α → String} {classes : List α} {a : α}
    (ha : a ∈ classes) : classes.filter (packageOf · = packageOf a) ≠ [] :=
  List.ne_nil_of_mem (List.mem_filter.mpr ⟨ha, decide_eq_true rfl⟩)

/-- A module has the classes of its package and category, in order, and at least one. -/
theorem units_of_mem_modulesOf (h : m ∈ modulesOf o) :
    m.content.units = o.unitsIn m.package m.name ∧ m.content.units ≠ [] := by
  unfold modulesOf at h
  rcases List.mem_append.mp h with h | h
  · rcases List.mem_append.mp h with h | h
    · obtain ⟨package, hpackage, rfl⟩ := List.mem_map.mp h
      obtain ⟨q, hq, rfl⟩ := List.mem_map.mp (mem_distinct.mp hpackage)
      exact ⟨(unitsIn_queries o _).symm, mt List.map_eq_nil_iff.mp (sharing_ne_nil hq)⟩
    · obtain ⟨package, hpackage, rfl⟩ := List.mem_map.mp h
      obtain ⟨c, hc, rfl⟩ := List.mem_map.mp (mem_distinct.mp hpackage)
      exact ⟨(unitsIn_projections o _).symm, mt List.map_eq_nil_iff.mp (sharing_ne_nil hc)⟩
  · obtain ⟨package, hpackage, rfl⟩ := List.mem_map.mp h
    obtain ⟨d, hd, rfl⟩ := List.mem_map.mp (mem_distinct.mp hpackage)
    exact ⟨(unitsIn_models o _).symm, mt List.map_eq_nil_iff.mp (sharing_ne_nil hd)⟩

/-- A module has a class of the output. -/
lemma exists_class (h : m ∈ modulesOf o) :
    ∃ u ∈ o.classes, u.package = m.package ∧ u.moduleName = m.name := by
  obtain ⟨hunits, hsome⟩ := units_of_mem_modulesOf h
  obtain ⟨u, hu⟩ := List.exists_mem_of_ne_nil _ hsome
  rw [hunits] at hu
  obtain ⟨hu, hplace⟩ := List.mem_filter.mp hu
  exact ⟨u, hu, of_decide_eq_true hplace⟩

/-- Each class is in a module. -/
theorem exists_module {u : GeneratedClass} (hu : u ∈ o.classes) :
    ∃ m ∈ modulesOf o, m.package = u.package ∧ m.name = u.moduleName := by
  unfold modulesOf
  unfold Output.classes at hu
  rcases List.mem_append.mp hu with hu | hu
  · rcases List.mem_append.mp hu with hu | hu
    · obtain ⟨q, hq, rfl⟩ := List.mem_map.mp hu
      refine ⟨_, List.mem_append_left _ (List.mem_append_left _ (List.mem_map_of_mem
        (mem_distinct.mpr (List.mem_map_of_mem hq)))), rfl, rfl⟩
    · obtain ⟨c, hc, rfl⟩ := List.mem_map.mp hu
      refine ⟨_, List.mem_append_left _ (List.mem_append_right _ (List.mem_map_of_mem
        (mem_distinct.mpr (List.mem_map_of_mem hc)))), rfl, rfl⟩
  · obtain ⟨d, hd, rfl⟩ := List.mem_map.mp hu
    exact ⟨_, List.mem_append_right _ (List.mem_map_of_mem
      (mem_distinct.mpr (List.mem_map_of_mem hd))), rfl, rfl⟩

/-- No two modules share both package and name. -/
theorem nodup_modulesOf (o : Output) :
    ((modulesOf o).map fun m => (m.package, m.name)).Nodup := by
  have hnodup : ∀ (packages : List String) (name : String),
      ((distinct packages).map fun p => (p, name)).Nodup := fun packages name =>
    (nodup_distinct packages).map fun _ _ h => congrArg Prod.fst h
  unfold modulesOf
  rw [List.map_append, List.map_append, List.map_map, List.map_map, List.map_map]
  refine List.nodup_append.mpr ⟨List.nodup_append.mpr ⟨hnodup _ _, hnodup _ _, ?_⟩, hnodup _ _, ?_⟩
  · intro a ha b hb hsame
    obtain ⟨p, _, rfl⟩ := List.mem_map.mp ha
    obtain ⟨p', _, rfl⟩ := List.mem_map.mp hb
    exact absurd (congrArg Prod.snd hsame) (by decide : "queries" ≠ "projections")
  · intro a ha b hb hsame
    obtain ⟨p', _, rfl⟩ := List.mem_map.mp hb
    rcases List.mem_append.mp ha with ha | ha
    · obtain ⟨p, _, rfl⟩ := List.mem_map.mp ha
      exact absurd (congrArg Prod.snd hsame) (by decide : "queries" ≠ "models")
    · obtain ⟨p, _, rfl⟩ := List.mem_map.mp ha
      exact absurd (congrArg Prod.snd hsame) (by decide : "projections" ≠ "models")

/-! ## Packages with files -/

lemma modulesOf_eq_nil (h : o.classes = []) : modulesOf o = [] := by
  rw [List.eq_nil_iff_forall_not_mem]
  intro m hm
  obtain ⟨u, hu, _⟩ := exists_class hm
  rw [h] at hu
  cases hu

lemma packagesOf_nil (c : Config) : packagesOf c [] = [c.packageName] := rfl

/-- Where there are classes, the packages on the way to them have files, and no others. -/
theorem mem_packagesOf (h : o.classes ≠ []) :
    package ∈ packagesOf c (modulesOf o)
      ↔ ∃ u ∈ o.classes, Text.parts '.' package <+: Text.parts '.' u.package := by
  have hmem : ∀ p, p ∈ distinct ((modulesOf o).flatMap fun m => ancestors m.package ++ [m.package])
      ↔ ∃ u ∈ o.classes, Text.parts '.' p <+: Text.parts '.' u.package := by
    intro p
    rw [mem_distinct, List.mem_flatMap]
    constructor
    · rintro ⟨m, hm, hp⟩
      obtain ⟨u, hu, hpackage, _⟩ := exists_class hm
      exact ⟨u, hu, hpackage ▸ mem_ancestors_or_self.mp hp⟩
    · rintro ⟨u, hu, hbegins⟩
      obtain ⟨m, hm, hpackage, _⟩ := exists_module hu
      exact ⟨m, hm, hpackage ▸ mem_ancestors_or_self.mpr hbegins⟩
  rw [← hmem]
  unfold packagesOf
  split
  · rename_i hnone
    -- the package of a class is there
    obtain ⟨u, hu⟩ := List.exists_mem_of_ne_nil _ h
    have hself := (hmem u.package).mpr ⟨u, hu, List.prefix_rfl⟩
    rw [hnone] at hself
    cases hself
  · exact Iff.rfl

lemma nodup_packagesOf (c : Config) (modules : List PackageModule) :
    (packagesOf c modules).Nodup := by
  unfold packagesOf
  split
  · exact List.nodup_singleton _
  · exact nodup_distinct _

end Render

end ClientGen
