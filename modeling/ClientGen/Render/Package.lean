import ClientGen.Config
import ClientGen.Files
import ClientGen.Render.Modules
import ClientGen.Source.Program

/-!
# Generated packages

The files of a client. The classes of one package and category make one module; every
directory on the way to a module is a package with a file of its own, which exports the
modules of its directory. A module that is no well-formed program is refused.

Main definition: `render`, all files, sorted by path.
-/

namespace ClientGen.Render

/-! ## Templates and headers -/

/-- Texts that stand for whole modules, in place of the generated text. -/
structure Templates where
  queries? : Option String := none
  projections? : Option String := none
  models? : Option String := none
deriving Repr, Inhabited

namespace Templates

/-- The templates of a directory, by the names of its files. -/
def ofFiles (files : List TextFile) : Templates :=
  let named (name : String) : Option String :=
    ((files.reverse.find? (·.path = name)).map fun f => unixLines f.text)
  { queries? := named "queries.py.j2"
    projections? := named "projections.py.j2"
    models? := named "models.py.j2" }

end Templates

/-- The text with a header above it, and an empty line between them. -/
def withHeader (header text : String) : String :=
  (if header.endsWith "\n" then header else header ++ "\n") ++ "\n" ++ text

/-- The text with several headers; the last one comes to stand on top. -/
def withHeaders (headers : List String) (text : String) : String :=
  headers.foldl (fun text header => withHeader header text) text

/-! ## Modules of an output -/

/-- A module of a package. -/
structure PackageModule where
  package : String
  content : ModuleContent
deriving Repr

/-- The distinct texts of a list, in the order of their first appearance. -/
def distinct (ss : List String) : List String :=
  ss.foldl (fun seen s => if seen.contains s then seen else seen ++ [s]) []

private theorem distinct_from (seen ss : List String) (hseen : seen.Nodup) :
    let all := ss.foldl (fun seen s => if seen.contains s then seen else seen ++ [s]) seen
    all.Nodup ∧ ∀ t, t ∈ all ↔ t ∈ seen ∨ t ∈ ss := by
  induction ss generalizing seen with
  | nil => exact ⟨hseen, fun t => by simp⟩
  | cons s ss ih =>
    rw [List.foldl_cons]
    by_cases hs : s ∈ seen
    · rw [if_pos (List.contains_iff_mem.mpr hs)]
      refine ⟨(ih seen hseen).1, fun t => ((ih seen hseen).2 t).trans ?_⟩
      have hknown : t = s → t ∈ seen := fun h => h ▸ hs
      rw [List.mem_cons, ← or_assoc, or_iff_left_of_imp hknown]
    · rw [if_neg fun h => hs (List.contains_iff_mem.mp h)]
      have hmore : (seen ++ [s]).Nodup := by
        rw [List.nodup_append]
        refine ⟨hseen, List.pairwise_singleton _ s, fun a ha b hb hsame => hs ?_⟩
        rwa [← List.mem_singleton.mp hb, ← hsame]
      refine ⟨(ih _ hmore).1, fun t => ((ih _ hmore).2 t).trans ?_⟩
      rw [List.mem_append, List.mem_singleton, List.mem_cons, or_assoc]

theorem nodup_distinct (ss : List String) : (distinct ss).Nodup :=
  (distinct_from [] ss List.nodup_nil).1

theorem mem_distinct {s : String} {ss : List String} : s ∈ distinct ss ↔ s ∈ ss := by
  have hmem := (distinct_from [] ss List.nodup_nil).2 s
  rwa [or_iff_right List.not_mem_nil] at hmem

/-- The modules of an output: one for each package of each category. -/
def modulesOf (o : Output) : List PackageModule :=
  ((distinct (o.queries.map (·.package))).map fun p =>
    ⟨p, .queries (o.queries.filter (·.package = p))⟩) ++
  ((distinct (o.projections.map (·.package))).map fun p =>
    ⟨p, .projections (o.projections.filter (·.package = p))⟩) ++
  ((distinct (o.dataTypes.map (·.package))).map fun p =>
    ⟨p, .models (o.dataTypes.filter (·.package = p))⟩)

namespace PackageModule

/-- The name of a module. -/
def name (m : PackageModule) : String :=
  match m.content with
  | .queries _ => "queries"
  | .projections _ => "projections"
  | .models _ => "models"

/-- The directory of a package. -/
def directoryOf (package : String) : String :=
  "/".intercalate (Text.parts '.' package)

/-- The path of a module. -/
def path (m : PackageModule) : String :=
  directoryOf m.package ++ "/" ++ m.name ++ ".py"

/-- The template that stands for the text of a module, if there is one. -/
def template? (templates : Templates) (m : PackageModule) : Option String :=
  match m.content with
  | .queries _ => templates.queries?
  | .projections _ => templates.projections?
  | .models _ => templates.models?

/-- The text of a module. -/
def text (templates : Templates) (typesPackage? : Option String) (m : PackageModule) : String :=
  (m.template? templates).getD (m.content.text typesPackage?)

end PackageModule

/-! ## Package files -/

/-- The packages on the way to a package, from the top, itself left out. -/
def ancestors (package : String) : List String :=
  let parts := Text.parts '.' package
  (List.range (parts.length - 1)).map fun i => ".".intercalate (parts.take (i + 1))

/-- The packages that need a file; without modules, the package of the configuration. -/
def packagesOf (c : Config) (modules : List PackageModule) : List String :=
  match distinct (modules.flatMap fun m => ancestors m.package ++ [m.package]) with
  | [] => [c.packageName]
  | packages => packages

/-- The lines of the file of a package, which exports some modules. -/
def packageLines (modules : List String) : List String :=
  let exported := modules.map fun n => "from ." ++ n ++ " import *  # noqa: F401,F403"
  "\"\"\"Generated GraphQL client package.\"\"\"" ::
    (if modules.isEmpty then [] else "" :: exported)

/-- The file of a package, which exports its modules. -/
def packageFile (modules : List PackageModule) (package : String) : TextFile :=
  { path := PackageModule.directoryOf package ++ "/__init__.py"
    text := textOfLines (packageLines ((modules.filter (·.package = package)).map (·.name))) }

/-! ## Rendering -/

/-- Why an output is not rendered. -/
inductive RenderError where
  /-- The text of a module is no well-formed program. -/
  | invalidModule (path : String)
  /-- The text of a module has a null character. -/
  | nullCharacter
deriving Repr, DecidableEq

/-- The wording of the refusal. -/
def RenderError.message : RenderError → String
  | .invalidModule path => s!"Generated invalid Python for {path}"
  | .nullCharacter => "source code string cannot contain null bytes"

/-- The file of a module, if its text is a well-formed program. -/
def moduleFile (templates : Templates) (typesPackage? : Option String) (m : PackageModule) :
    Except RenderError TextFile :=
  let text := m.text templates typesPackage?
  if text.contains '\x00' then .error .nullCharacter
  else if Source.isProgram text then .ok ⟨m.path, text⟩
  else .error (.invalidModule m.path)

/-- The shared package of the data types, if there are any in it. -/
def typesPackage? (c : Config) (o : Output) : Option String :=
  if o.dataTypes.any (·.package = c.typesNamespace) then some c.typesNamespace else none

/-- The files of an output, sorted by path, each with the headers. -/
def render (c : Config) (templates : Templates) (headers : List String) (o : Output) :
    Except RenderError (List TextFile) := do
  let modules := modulesOf o
  let files ← modules.mapM (moduleFile templates (typesPackage? c o))
  let all := ((files ++ (packagesOf c modules).map (packageFile modules)).foldl FileTree.put {}).files
  let finished := all.map fun f => { f with text := withHeaders headers f.text }
  return finished.mergeSort fun a b => a.path ≤ b.path

end ClientGen.Render
