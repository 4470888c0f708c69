import ClientGen.Proofs.Calls.Hints
import ClientGen.Proofs.Generation.Packages
import ClientGen.Proofs.Render.EnumModules
import ClientGen.Proofs.Render.Modules
import Mathlib.Data.Prod.Basic

/-!
# Layout of packages

The files of an output are its modules and the files of its packages. No two of them share a path;
each class is written in the module of its package and category, in the order of the output, the
data types by kind; and the file of a package exports the modules of its directory.

* `Layout` says all this of the files.
* `layout_of_render` proves it where the names of packages have no slashes.
* `hasPackages_iff` says when every directory on the way to a file has the file of a package.
* `files_lie_in_packages` says both of the files of a run.
-/

namespace ClientGen

/-! ## Files in a tree -/

/-- Files with different paths are put one after the other. -/
lemma FileTree.files_foldl_put {tree : FileTree} {fs : List TextFile}
    (h : ((tree.files ++ fs).map (·.path)).Nodup) :
    (fs.foldl FileTree.put tree).files = tree.files ++ fs := by
  induction fs generalizing tree with
  | nil => exact (List.append_nil _).symm
  | cons f fs ih =>
    have hput : (tree.put f).files = tree.files ++ [f] := by
      rw [List.map_append, List.nodup_append] at h
      refine congrArg (· ++ [f]) (List.filter_eq_self.mpr fun g hg => ?_)
      refine decide_eq_true fun hsame => ?_
      exact h.2.2 _ (List.mem_map_of_mem hg) _ (List.mem_map_of_mem List.mem_cons_self) hsame
    have hrest : (((tree.put f).files ++ fs).map (·.path)).Nodup := by
      rw [hput, List.append_assoc]
      exact h
    rw [List.foldl_cons, ih hrest, hput, List.append_assoc]
    rfl

namespace Render

variable {c : Config} {headers : List String} {o : Output} {files : List TextFile}

/-! ## What is rendered -/

/-- The file of a module that is not refused. -/
lemma eq_of_moduleFile {templates : Templates} {typesPackage? : Option String} {m : PackageModule}
    {f : TextFile} (h : moduleFile templates typesPackage? m = .ok f) :
    f = ⟨m.path, m.text templates typesPackage?⟩ := by
  unfold moduleFile at h
  dsimp only at h
  split at h
  · cases h
  · split at h
    · exact (Except.ok.inj h).symm
    · cases h

lemma map_of_mapM_moduleFile {templates : Templates} {typesPackage? : Option String}
    {modules : List PackageModule} {made : List TextFile}
    (h : modules.mapM (moduleFile templates typesPackage?) = .ok made) :
    made = modules.map fun m => ⟨m.path, m.text templates typesPackage?⟩ := by
  induction modules generalizing made with
  | nil => exact (Except.ok.inj h).symm
  | cons m modules ih =>
    rw [List.mapM_cons] at h
    cases hfile : moduleFile templates typesPackage? m with
    | error e =>
      rw [hfile] at h
      cases h
    | ok f =>
      cases hmore : modules.mapM (moduleFile templates typesPackage?) with
      | error e =>
        rw [hfile, hmore] at h
        cases h
      | ok more =>
        rw [hfile, hmore] at h
        rw [← Except.ok.inj h, List.map_cons, ← ih hmore, eq_of_moduleFile hfile]

/-- The files of an output, as they are before they get headers. -/
def bareFiles (c : Config) (o : Output) : List TextFile :=
  (modulesOf o).map (fun m => ⟨m.path, m.content.text (typesPackage? c o)⟩)
    ++ (packagesOf c (modulesOf o)).map (packageFile (modulesOf o))

/-- The file with headers. -/
def withHeadersOn (headers : List String) (f : TextFile) : TextFile :=
  { f with text := withHeaders headers f.text }

/-- The file of a module, with headers. -/
def moduleFileOf (c : Config) (headers : List String) (o : Output) (m : PackageModule) : TextFile :=
  withHeadersOn headers ⟨m.path, m.content.text (typesPackage? c o)⟩

/-- The file of a package, with headers. -/
def packageFileOf (headers : List String) (o : Output) (package : String) : TextFile :=
  withHeadersOn headers (packageFile (modulesOf o) package)

/-- Without templates, what is rendered are the files of the output with headers. -/
lemma perm_of_render (hpaths : ((bareFiles c o).map (·.path)).Nodup)
    (h : render c {} headers o = .ok files) :
    files.Perm ((bareFiles c o).map (withHeadersOn headers)) := by
  unfold render at h
  dsimp only at h
  cases hmade : (modulesOf o).mapM (moduleFile {} (typesPackage? c o)) with
  | error e =>
    rw [hmade] at h
    cases h
  | ok made =>
    rw [hmade] at h
    have hfiles := Except.ok.inj h
    have hbare : made ++ (packagesOf c (modulesOf o)).map (packageFile (modulesOf o))
        = bareFiles c o := by
      rw [map_of_mapM_moduleFile hmade]
      simp only [text_of_no_templates, bareFiles]
    have hput : ((bareFiles c o).foldl FileTree.put {}).files = bareFiles c o :=
      FileTree.files_foldl_put hpaths
    rw [hbare, hput] at hfiles
    rw [← hfiles]
    exact List.mergeSort_perm _ _

/-! ## The layout -/

/-- The file is the module of its path: it has the classes of its package and category, in the order
of the output, the data types by kind, and what belongs around them. -/
def IsModuleFile (c : Config) (headers : List String) (o : Output) (f : TextFile) : Prop :=
  ∃ content : ModuleContent,
    content.units = o.classes.filter (·.modulePath = f.path)
      ∧ f.text = withHeaders headers (textOfLines (content.opening (typesPackage? c o)
          ++ content.written.flatMap classLines ++ content.closing))

/-- The file belongs to the package of its directory, and exports exactly the modules among some
files that are in the same directory. -/
def IsPackageFile (headers : List String) (files : List TextFile) (f : TextFile) : Prop :=
  ∃ way names,
    Text.parts '/' f.path = way ++ ["__init__.py"]
      ∧ f.text = withHeaders headers (textOfLines (packageLines names))
      ∧ names.Nodup
      ∧ ∀ n, n ∈ names
          ↔ n ≠ "__init__" ∧ ∃ g ∈ files, Text.parts '/' g.path = way ++ [n ++ ".py"]

/-- How the files of an output are laid out. -/
structure Layout (c : Config) (headers : List String) (o : Output) (files : List TextFile) :
    Prop where
  distinct : (files.map (·.path)).Nodup
  modules : ∀ u ∈ o.classes, ∃ f ∈ files, f.path = u.modulePath ∧ IsModuleFile c headers o f
  others : ∀ f ∈ files,
    (∃ u ∈ o.classes, f.path = u.modulePath) ∨ IsPackageFile headers files f

/-- Every directory on the way to one of some files, from the top, has the file of a package. -/
def HasPackages (files : List TextFile) : Prop :=
  ∀ f ∈ files, ∀ way, way ≠ [] → way <+: (Text.parts '/' f.path).dropLast →
    ∃ g ∈ files, Text.parts '/' g.path = way ++ ["__init__.py"]

/-! ## Paths -/

/-- A name without a dot has one part, and no other has. -/
lemma dotless_iff_parts {s : String} : Dotless s ↔ (Text.parts '.' s).length = 1 := by
  constructor
  · intro h
    rw [Text.parts_of_not_mem h, List.length_singleton]
  · intro hlength hdot
    obtain ⟨t, ht⟩ := List.length_eq_one_iff.mp hlength
    have hself := Text.intercalate_parts '.' s
    rw [ht, String.intercalate_singleton] at hself
    have hmem : s ∈ Text.parts '.' s := ht ▸ hself ▸ List.mem_singleton_self t
    exact (Text.of_mem_parts hmem hdot).2 rfl

variable {m : PackageModule} {package name : String}

lemma slashless_moduleFile (u : GeneratedClass) : Slashless (u.moduleName ++ ".py") := by
  rcases u.moduleName_cases with h | h | h <;> (rw [h]; decide)

lemma moduleName_ne_init (u : GeneratedClass) : u.moduleName ≠ "__init__" := by
  rcases u.moduleName_cases with h | h | h <;> (rw [h]; decide)

lemma append_py_injective : Function.Injective (· ++ ".py" : String → String) :=
  fun _ _ h => (String.append_left_inj ".py").mp h

/-- The path of a module is that of the classes of its package and category. -/
lemma modulePath_of_same {u : GeneratedClass} (hpackage : u.package = m.package)
    (hname : u.moduleName = m.name) : u.modulePath = m.path := by
  unfold GeneratedClass.modulePath
  rw [PackageModule.path_eq, hpackage, hname]

/-- The files of an output by package and name. -/
def fileKeys (c : Config) (o : Output) : List (String × String) :=
  (modulesOf o).map (fun m => (m.package, m.name ++ ".py"))
    ++ (packagesOf c (modulesOf o)).map fun p => (p, "__init__.py")

lemma map_path_bareFiles (c : Config) (o : Output) :
    (bareFiles c o).map (·.path) = (fileKeys c o).map fun key => filePath key.1 key.2 := by
  unfold bareFiles fileKeys
  simp only [List.map_append, List.map_map, Function.comp_def, PackageModule.path_eq,
    packageFile_path]

lemma nodup_fileKeys (c : Config) (o : Output) : (fileKeys c o).Nodup := by
  have hmodules : ((modulesOf o).map fun m => (m.package, m.name ++ ".py")).Nodup := by
    have hkeys := (nodup_modulesOf o).map
      (Function.Injective.prodMap Function.injective_id append_py_injective)
    rwa [List.map_map] at hkeys
  have hpackages : ((packagesOf c (modulesOf o)).map fun p => (p, "__init__.py")).Nodup :=
    (nodup_packagesOf c _).map fun _ _ h => congrArg Prod.fst h
  refine List.nodup_append.mpr ⟨hmodules, hpackages, fun key hkey key' hkey' hsame => ?_⟩
  -- no module has the name of the file of a package
  obtain ⟨m, hm, rfl⟩ := List.mem_map.mp hkey
  obtain ⟨p, _, rfl⟩ := List.mem_map.mp hkey'
  obtain ⟨u, _, _, hname⟩ := exists_class hm
  have hinit : m.name ++ ".py" = "__init__" ++ ".py" := congrArg Prod.snd hsame
  exact moduleName_ne_init u (hname.trans (append_py_injective hinit))

section

variable (hclasses : ∀ u ∈ o.classes, Slashless u.package) (hpackage : Slashless c.packageName)

include hclasses

lemma modulePath_inj {u v : GeneratedClass} (hu : u ∈ o.classes) (hv : v ∈ o.classes) :
    u.modulePath = v.modulePath ↔ u.package = v.package ∧ u.moduleName = v.moduleName := by
  constructor
  · intro h
    obtain ⟨hpackage, hname⟩ := eq_of_filePath (hclasses u hu) (slashless_moduleFile u)
      (hclasses v hv) (slashless_moduleFile v) h
    exact ⟨hpackage, append_py_injective hname⟩
  · rintro ⟨hpackage, hname⟩
    unfold GeneratedClass.modulePath
    rw [hpackage, hname]

include hpackage

lemma slashless_of_mem_packagesOf (h : package ∈ packagesOf c (modulesOf o)) :
    Slashless package := by
  by_cases hnone : o.classes = []
  · rw [modulesOf_eq_nil hnone, packagesOf_nil, List.mem_singleton] at h
    rwa [h]
  · obtain ⟨u, hu, hbegins⟩ := (mem_packagesOf hnone).mp h
    exact (hclasses u hu).of_beginning hbegins

/-- No two files of an output share a path. -/
theorem nodup_bareFiles : ((bareFiles c o).map (·.path)).Nodup := by
  rw [map_path_bareFiles]
  refine List.Nodup.map_on (fun key hkey key' hkey' hsame => ?_) (nodup_fileKeys c o)
  have hslashless : ∀ key ∈ fileKeys c o, Slashless key.1 ∧ Slashless key.2 := by
    intro key hkey
    rcases List.mem_append.mp hkey with hkey | hkey
    · obtain ⟨m, hm, rfl⟩ := List.mem_map.mp hkey
      obtain ⟨u, hu, hsame, hname⟩ := exists_class hm
      exact ⟨hsame ▸ hclasses u hu, hname ▸ slashless_moduleFile u⟩
    · obtain ⟨p, hp, rfl⟩ := List.mem_map.mp hkey
      exact ⟨slashless_of_mem_packagesOf hclasses hpackage hp,
        (by decide : Slashless "__init__.py")⟩
  obtain ⟨hp, hn⟩ := eq_of_filePath (hslashless key hkey).1 (hslashless key hkey).2
    (hslashless key' hkey').1 (hslashless key' hkey').2 hsame
  exact Prod.ext hp hn

/-! ## What the files are -/

/-- What is rendered are the files of the modules and those of the packages. -/
lemma mem_of_render (h : render c {} headers o = .ok files) {f : TextFile} :
    f ∈ files ↔ (∃ m ∈ modulesOf o, moduleFileOf c headers o m = f)
      ∨ ∃ p ∈ packagesOf c (modulesOf o), packageFileOf headers o p = f := by
  rw [(perm_of_render (nodup_bareFiles hclasses hpackage) h).mem_iff]
  unfold bareFiles
  simp only [List.map_append, List.map_map, List.mem_append, List.mem_map]
  rfl

omit hpackage

lemma isModuleFile (hm : m ∈ modulesOf o) :
    IsModuleFile c headers o (moduleFileOf c headers o m) := by
  refine ⟨m.content, ?_, rfl⟩
  obtain ⟨v, hv, hpackage, hname⟩ := exists_class hm
  rw [(units_of_mem_modulesOf hm).1, ← hpackage, ← hname]
  refine List.filter_congr fun u hu => decide_eq_decide.mpr ?_
  show _ ↔ u.modulePath = m.path
  rw [← modulePath_of_same hpackage hname, modulePath_inj hclasses hu hv]

lemma parts_path_module (hm : m ∈ modulesOf o) :
    Text.parts '/' m.path = Text.parts '.' m.package ++ [m.name ++ ".py"] := by
  obtain ⟨v, hv, hpackage, hname⟩ := exists_class hm
  rw [PackageModule.path_eq]
  exact parts_filePath (hpackage ▸ hclasses v hv) (hname ▸ slashless_moduleFile v)

omit hclasses in
/-- No module is exported twice. -/
lemma nodup_exported (o : Output) (package : String) :
    (((modulesOf o).filter (·.package = package)).map (·.name)).Nodup := by
  apply List.Nodup.of_map fun n => (package, n)
  have hsame : (((modulesOf o).filter (·.package = package)).map (·.name)).map
      (fun n => (package, n))
        = ((modulesOf o).filter (·.package = package)).map fun m => (m.package, m.name) := by
    rw [List.map_map]
    refine List.map_congr_left fun m hm => Prod.ext ?_ rfl
    exact (of_decide_eq_true (List.mem_filter.mp hm).2).symm
  rw [hsame]
  exact (nodup_modulesOf o).sublist (List.Sublist.map _ List.filter_sublist)

include hpackage

lemma parts_path_package (h : package ∈ packagesOf c (modulesOf o)) :
    Text.parts '/' (packageFileOf headers o package).path
      = Text.parts '.' package ++ ["__init__.py"] := by
  show Text.parts '/' (packageFile (modulesOf o) package).path = _
  rw [packageFile_path]
  exact parts_filePath (slashless_of_mem_packagesOf hclasses hpackage h)
    (by decide : Slashless "__init__.py")

lemma isPackageFile (h : render c {} headers o = .ok files)
    (hp : package ∈ packagesOf c (modulesOf o)) :
    IsPackageFile headers files (packageFileOf headers o package) := by
  refine ⟨Text.parts '.' package, ((modulesOf o).filter (·.package = package)).map (·.name),
    parts_path_package hclasses hpackage hp, rfl, nodup_exported o package, fun n => ?_⟩
  constructor
  · intro hn
    obtain ⟨m, hm, rfl⟩ := List.mem_map.mp hn
    obtain ⟨hm, hsame⟩ := List.mem_filter.mp hm
    obtain ⟨u, _, _, hname⟩ := exists_class hm
    refine ⟨hname ▸ moduleName_ne_init u, moduleFileOf c headers o m, ?_, ?_⟩
    · exact (mem_of_render hclasses hpackage h).mpr (.inl ⟨m, hm, rfl⟩)
    · rw [← of_decide_eq_true hsame]
      exact parts_path_module hclasses hm
  · rintro ⟨hinit, g, hg, hparts⟩
    rcases (mem_of_render hclasses hpackage h).mp hg with ⟨m, hm, rfl⟩ | ⟨p, hp', rfl⟩
    · have hsame := (parts_path_module hclasses hm).symm.trans hparts
      obtain ⟨hways, hnames⟩ := List.append_inj' hsame rfl
      refine List.mem_map.mpr ⟨m, List.mem_filter.mpr ⟨hm, ?_⟩, ?_⟩
      · exact decide_eq_true (parts_injective hways)
      · exact append_py_injective (List.cons.inj hnames).1
    · -- the file of a package is none of its modules
      have hsame := (parts_path_package hclasses hpackage hp').symm.trans hparts
      obtain ⟨_, hnames⟩ := List.append_inj' hsame rfl
      have hpy : "__init__" ++ ".py" = n ++ ".py" := (List.cons.inj hnames).1
      exact (hinit (append_py_injective hpy).symm).elim

/-- The files of an output are laid out by package and category. -/
theorem layout_of_render (h : render c {} headers o = .ok files) :
    Layout c headers o files where
  distinct := by
    have hperm := perm_of_render (nodup_bareFiles hclasses hpackage) h
    rw [(hperm.map _).nodup_iff, List.map_map]
    exact nodup_bareFiles hclasses hpackage
  modules := fun u hu => by
    obtain ⟨m, hm, hpackage', hname⟩ := exists_module hu
    exact ⟨moduleFileOf c headers o m, (mem_of_render hclasses hpackage h).mpr (.inl ⟨m, hm, rfl⟩),
      (modulePath_of_same hpackage'.symm hname.symm).symm, isModuleFile hclasses hm⟩
  others := fun f hf => by
    rcases (mem_of_render hclasses hpackage h).mp hf with ⟨m, hm, rfl⟩ | ⟨p, hp, rfl⟩
    · obtain ⟨u, hu, hpackage', hname⟩ := exists_class hm
      exact .inl ⟨u, hu, (modulePath_of_same hpackage' hname).symm⟩
    · exact .inr (isPackageFile hclasses hpackage h hp)

/-! ## Directories -/

/-- The directories of a file are those of a package on the way to a class, or of the package of
the configuration. -/
lemma exists_directories (h : render c {} headers o = .ok files) {f : TextFile} (hf : f ∈ files) :
    ∃ p ∈ packagesOf c (modulesOf o), (Text.parts '/' f.path).dropLast = Text.parts '.' p := by
  rcases (mem_of_render hclasses hpackage h).mp hf with ⟨m, hm, rfl⟩ | ⟨p, hp, rfl⟩
  · obtain ⟨u, hu, hpackage', _⟩ := exists_class hm
    refine ⟨m.package, (mem_packagesOf (List.ne_nil_of_mem hu)).mpr ⟨u, hu, ?_⟩, ?_⟩
    · exact hpackage' ▸ List.prefix_rfl
    · show (Text.parts '/' m.path).dropLast = _
      rw [parts_path_module hclasses hm, List.dropLast_concat]
  · refine ⟨p, hp, ?_⟩
    rw [parts_path_package hclasses hpackage hp, List.dropLast_concat]

lemma hasPackages_of_closed (h : render c {} headers o = .ok files)
    (hclosed : ∀ p ∈ packagesOf c (modulesOf o), ∀ q,
      Text.parts '.' q <+: Text.parts '.' p → q ∈ packagesOf c (modulesOf o)) :
    HasPackages files := by
  intro f hf way hway hbegins
  obtain ⟨p, hp, hdirectories⟩ := exists_directories hclasses hpackage h hf
  rw [hdirectories] at hbegins
  have hparts := parts_intercalate_of_beginning hway hbegins
  have hq := hclosed p hp (".".intercalate way) (hparts.symm ▸ hbegins)
  refine ⟨packageFileOf headers o (".".intercalate way),
    (mem_of_render hclasses hpackage h).mpr (.inr ⟨_, hq, rfl⟩), ?_⟩
  rw [parts_path_package hclasses hpackage hq, hparts]

/-- Every directory has the file of a package if there are classes. Without them there is one file,
and it is enough only if the package of the configuration is a directory at the top. -/
theorem hasPackages_iff (h : render c {} headers o = .ok files) :
    HasPackages files ↔ o.classes ≠ [] ∨ Dotless c.packageName := by
  by_cases hnone : o.classes = []
  · have hpackages : packagesOf c (modulesOf o) = [c.packageName] := by
      rw [modulesOf_eq_nil hnone, packagesOf_nil]
    rw [or_iff_right (not_not.mpr hnone), dotless_iff_parts]
    have hsome := Text.parts_ne_nil '.' c.packageName
    constructor
    · intro hall
      have hself : c.packageName ∈ packagesOf c (modulesOf o) :=
        hpackages ▸ List.mem_singleton_self _
      have hmem := (mem_of_render hclasses hpackage h).mpr (.inr ⟨_, hself, rfl⟩)
      have hway : (Text.parts '.' c.packageName).take 1
          <+: (Text.parts '/' (packageFileOf headers o c.packageName).path).dropLast := by
        rw [parts_path_package hclasses hpackage hself, List.dropLast_concat]
        exact List.take_prefix _ _
      -- the file at the top can only be the one that there is
      obtain ⟨g, hg, htop⟩ := hall _ hmem _ (by simpa using hsome) hway
      obtain ⟨p, hp, hdirectories⟩ := exists_directories hclasses hpackage h hg
      rw [hpackages, List.mem_singleton] at hp
      rw [htop, List.dropLast_concat, hp] at hdirectories
      have hpos := List.length_pos_iff.mpr hsome
      rw [← hdirectories, List.length_take]
      omega
    · intro hone
      refine hasPackages_of_closed hclasses hpackage h fun p hp q hbegins => ?_
      rw [hpackages, List.mem_singleton] at hp ⊢
      rw [hp] at hbegins
      have hpos := List.length_pos_iff.mpr (Text.parts_ne_nil '.' q)
      have hle := hbegins.length_le
      exact parts_injective (hbegins.eq_of_length (by omega))
  · refine iff_of_true ?_ (.inl hnone)
    refine hasPackages_of_closed hclasses hpackage h fun p hp q hbegins => ?_
    obtain ⟨u, hu, hway⟩ := (mem_packagesOf hnone).mp hp
    exact (mem_packagesOf hnone).mpr ⟨u, hu, hbegins.trans hway⟩

end

end Render

/-! ## Files of a run -/

open Render

variable {ctx : Context} {c : Config} {depth : ℤ} {headers : List String} {o : Output}
  {files : List TextFile}

/-- The files of a run are laid out by package and category, whatever the text of the example
operations is, if there is one. Every directory on the way to one of them has the file of a package,
unless there are no classes and the package of the configuration lies inside another one. -/
theorem files_lie_in_packages (hchecked : c.checked depth = .ok ctx.config)
    (hexamples : ctx.examples = [] ∨ ∃ text, ExampleDocument.read? text = some ctx.examples)
    (h : generate ctx = .ok o) (hrender : render ctx.config {} headers o = .ok files) :
    Layout ctx.config headers o files
      ∧ (HasPackages files ↔ o.classes ≠ [] ∨ Dotless ctx.config.packageName) := by
  have hslashless : ∀ e ∈ ctx.examples, e.Slashless := by
    rcases hexamples with hnone | ⟨_, htext⟩
    · rw [hnone]
      exact fun _ he => absurd he List.not_mem_nil
    · exact ExampleDocument.slashless_of_read? htext
  have hclasses := slashless_of_generate hchecked hslashless h
  have hpackage := Slashless.of_isDottedName (Config.dotted_of_checked hchecked).1
  exact ⟨layout_of_render hclasses hpackage hrender, hasPackages_iff hclasses hpackage hrender⟩

/-- The field `rate(scale: Scale): Int`. -/
def rateField : Field :=
  { plainField "rate" "Int" with arguments := [plainArgument "scale" "Scale"] }

/-- The setting of this field and its enum, in a package inside another one. -/
def ratings : Context where
  schema := { types := [queryType rateField, plainEnum "Scale"] }
  config := { packageName := "acme.films" }

/-- The class of the enum. -/
def scaleClass : DataClass where
  package := "acme.films.types"
  name := "Scale"
  body := .enum ["all"]

/-- The class of the field and the class of the enum. -/
def ratingsOutput : Output where
  queries := [queryClass ratings .query rateField]
  dataTypes := [scaleClass]

lemma generate_ratings : generate ratings = .ok ratingsOutput := by
  let asked : RunState :=
    { registry := ⟨["acme.films.types.Scale", "acme.films.client.RateGraphQLQuery"]⟩ }
  have hquery : emitQuery ratings .query rateField {} = .ok _ asked :=
    emitQuery_of_types (by decide)
      (argumentTypes_of_free (t := plainEnum "Scale") rfl rfl rfl (by decide) (by decide) rfl)
  have hprojection : emitRootProjection ratings (queryType rateField) none rateField asked
      = .ok ∅ asked := rfl
  have hnone : emitRootFields ratings .query (queryType rateField) [] asked = .ok ∅ asked := rfl
  exact generate_of_fields ratings (queryType rateField) rfl rfl rfl
    (emitRootFields_of_cons hquery hprojection hnone)

/-- The module of the query class. -/
def rateLines : List String :=
  ["\"\"\"Generated GraphQL query classes. Do not edit.\"\"\"",
   "",
   "from __future__ import annotations",
   "",
   "from typing import TYPE_CHECKING, Any, List, Optional, Set, Union",
   "",
   "from gql_projections.runtime import GraphQLQuery",
   "",
   "if TYPE_CHECKING:",
   "    from acme.films.types.models import *  # noqa: F401,F403",
   "",
   "__all__ = [",
   "    'RateGraphQLQuery',",
   "]",
   "",
   "",
   "class RateGraphQLQuery(GraphQLQuery):",
   "    def __init__(self, *, scale: Optional[Scale] = None, fields_set: Optional[Set[str]] = None,"
     ++ " query_name: Optional[str] = None):",
   "        super().__init__('query', query_name)",
   "        fields_set = fields_set or set()",
   "        if scale is not None or 'scale' in fields_set:",
   "            self.input['scale'] = scale",
   "",
   "    def get_operation_name(self) -> str:",
   "        return 'rate'",
   "",
   "    @staticmethod",
   "    def new_request() -> RateGraphQLQuery.Builder:",
   "        return RateGraphQLQuery.Builder()",
   "",
   "    class Builder:",
   "        def __init__(self):",
   "            self._values: dict[str, Any] = \x7b\x7d",
   "            self._fields_set: set[str] = set()",
   "            self._query_name: Optional[str] = None",
   "",
   "        def scale(self, scale: Optional[Scale]) -> RateGraphQLQuery.Builder:",
   "            self._values['scale'] = scale",
   "            self._fields_set.add('scale')",
   "            return self",
   "",
   "        def query_name(self, query_name: str) -> RateGraphQLQuery.Builder:",
   "            self._query_name = query_name",
   "            return self",
   "",
   "        def build(self) -> RateGraphQLQuery:",
   "            return RateGraphQLQuery(",
   "                **self._values,",
   "                fields_set=self._fields_set,",
   "                query_name=self._query_name,",
   "            )"]

lemma text_rateModule : (ModuleContent.queries ratingsOutput.queries).text (some "acme.films.types")
    = textOfLines rateLines := by
  have hlines : queriesOpening ratingsOutput.queries (some "acme.films.types")
      ++ ratingsOutput.queries.flatMap Render.queryClass = rateLines := by decide +kernel
  show textOfLines (_ ++ (ratingsOutput.queries.map GeneratedClass.query).flatMap classLines ++ [])
    = _
  rw [List.append_nil, List.flatMap_map, ← hlines]
  rfl

-- each literal is replaced by its characters before anything is evaluated: to decode it takes long
set_option maxRecDepth 10000 in
lemma areProgram_rateLines : areProgram (lineChars rateLines) = true := by
  simp only [rateLines, lineChars, List.flatMap_cons, List.flatMap_nil, String.toList_append]
  repeat rw [String.toList_ofList]
  decide +kernel

lemma isNamedEnum_scaleClass : IsNamedEnum scaleClass where
  isEnum := rfl
  imports := rfl
  name := by decide
  values := by decide

/-- Both modules are programs. -/
lemma render_ratings : ∃ files, render ratings.config {} [] ratingsOutput = .ok files := by
  have hmodules : modulesOf ratingsOutput
      = [⟨"acme.films.client", .queries ratingsOutput.queries⟩,
        ⟨"acme.films.types", .models [scaleClass]⟩] := rfl
  have hshared : typesPackage? ratings.config ratingsOutput = some "acme.films.types" := rfl
  have henums : ∀ d ∈ [scaleClass], IsNamedEnum d := fun d hd =>
    List.mem_singleton.mp hd ▸ isNamedEnum_scaleClass
  rw [exists_render_iff, hmodules, hshared]
  simp only [List.forall_mem_cons, text_of_no_templates]
  refine ⟨?_, ?_, fun _ h => absurd h List.not_mem_nil⟩
  · rw [text_rateModule]
    exact isProgram_of_areProgram areProgram_rateLines
  · rw [null_mem_enumModule henums, isProgram_enumModule henums]
    exact ⟨by decide, by decide⟩

/-- The modules of two classes lie in packages of their own, inside two others. -/
theorem files_lie_in_packages_ratings :
    ∃ o files, generate ratings = .ok o ∧ render ratings.config {} [] o = .ok files
      ∧ o.classes.map (·.modulePath)
        = ["acme/films/client/queries.py", "acme/films/types/models.py"]
      ∧ Layout ratings.config [] o files ∧ HasPackages files := by
  obtain ⟨files, hrender⟩ := render_ratings
  have hchecked : Config.checked { packageName := "acme.films" } 10 = .ok ratings.config := rfl
  obtain ⟨hlayout, hiff⟩ := files_lie_in_packages hchecked (.inl rfl) generate_ratings hrender
  exact ⟨ratingsOutput, files, generate_ratings, hrender, by decide, hlayout,
    hiff.mpr (.inl (by decide))⟩

/-- The setting of a schema that has a scalar type only. -/
def onlyScalar (package : String) : Context where
  schema := { types := [{ name := "Date", kind := .scalar }] }
  config := { packageName := package }

lemma generate_onlyScalar (package : String) : generate (onlyScalar package) = .ok ∅ := rfl

/-- All that is rendered is the file of one package. -/
lemma render_onlyScalar (package : String) :
    render (onlyScalar package).config {} [] ∅ = .ok [packageFile [] package] := by
  show Except.ok (List.mergeSort [packageFile [] package] _) = _
  rw [List.mergeSort_singleton]

/-- With nothing to be rendered, a package inside another one has a file and the outer one has
none. -/
theorem onlyScalar_lacks_outer_package :
    Config.checked { packageName := "acme.films" } 10 = .ok (onlyScalar "acme.films").config
      ∧ generate (onlyScalar "acme.films") = .ok ∅
      ∧ ∃ files, render (onlyScalar "acme.films").config {} [] ∅ = .ok files
        ∧ ¬ HasPackages files := by
  refine ⟨rfl, generate_onlyScalar _, _, render_onlyScalar _, fun hall => ?_⟩
  obtain ⟨g, hg, htop⟩ := hall _ (List.mem_singleton_self _) ["acme"] (by decide) (by decide)
  rw [List.mem_singleton.mp hg] at htop
  revert htop
  decide

end ClientGen
