import ClientGen.Archive.Basic
import ClientGen.Command.Settings
import ClientGen.Generation
import ClientGen.Render.Package
import ClientGen.Schema.Assembly
import ClientGen.Schema.Sources

/-!
# A run of the command

What the command `generate` prints and which files it writes, as a function of its words and
of the files that it finds.

Main definition: `Command.run`.
-/

namespace ClientGen.Command

/-- What the command finds. -/
structure Workspace where
  tree : FileTree := {}
  /-- The files of the tree that are archives. -/
  archives : List Archive := []
  /-- The way to the directory into which an archive is unpacked. -/
  scratch : List String := ["tmp", "schema"]
deriving Repr

/-- Why the command fails. -/
inductive Failure where
  | usage (error : UsageError)
  /-- A file has the name of an archive, but not the ending of one that can be unpacked. -/
  | archiveFormat (suffix : String)
  /-- A file with the ending of an archive is none. -/
  | notArchive
  /-- A schema or the document with the example operations is malformed. -/
  | malformedDocument
  | run (error : RunError)
  | render (error : Render.RenderError)
deriving Repr, DecidableEq

/-- The wording of a failure. -/
def Failure.message : Failure → String
  | .usage error => error.message
  | .archiveFormat suffix => s!"Unsupported archive format: {suffix}"
  | .notArchive => "File is not a zip file"
  | .malformedDocument => "Syntax Error"
  | .run error => error.message
  | .render error => error.message

/-- Part of a run: it prints lines, and may fail. -/
abbrev Job := ExceptT Failure (StateM (List String))

namespace Job

/-- Prints a line. -/
def say (line : String) : Job Unit :=
  modify (· ++ [line])

/-- Prints a line if the command should tell more. -/
def note (s : Settings) (line : String) : Job Unit :=
  if s.verbose then say line else pure ()

/-- Fails if there is no value. -/
def orFail {α : Type} (failure : Failure) : Option α → Job α
  | some a => pure a
  | none => throw failure

/-- Fails with an error of another kind. -/
def lift {ε α : Type} (failure : ε → Failure) : Except ε α → Job α
  | .ok a => pure a
  | .error e => throw (failure e)

end Job

open Job

/-- A way from the top as text. -/
def absolutePath (way : List String) : String :=
  "/" ++ joinedPath way

/-- Where a schema is found. -/
structure SchemaPlace where
  tree : FileTree
  /-- The way to it in the tree. -/
  way : List String
  /-- The way to it that is told. -/
  shown : List String

/-- Where the schema is found; an archive is unpacked. -/
def schemaPlace (ws : Workspace) (s : Settings) : Job SchemaPlace := do
  let way := ws.tree.wayTo s.schema
  let name := way.getLastD ""
  if (ws.tree.fileAt? way).isSome && Archive.isArchiveName name then
    say s!"Extracting archive {name}..."
    if Archive.suffix name ≠ ".zip" then throw (.archiveFormat (Archive.suffix name))
    let archive ← orFail .notArchive (ws.archives.find? (·.path = joinedPath way))
    note s s!"  Extracted to: {absolutePath ws.scratch}"
    return ⟨archive.unpacked, [], ws.scratch⟩
  else return ⟨ws.tree, way, way⟩

/-- The templates of a directory. -/
def templatesOf (tree : FileTree) (path : String) : Render.Templates :=
  let way := tree.wayTo path
  let top := joinedPath (way ++ [""])
  .ofFiles ((tree.filesBelow way).map fun f =>
    { f with path := String.ofList (f.path.toList.drop top.length) })

/-- Generates a client as the settings say, and answers the files to be written. -/
def generateClient (ws : Workspace) (s : Settings) : Job (List TextFile) := do
  let place ← schemaPlace ws s
  let output := ws.tree.wayTo s.output
  note s s!"Schema: {absolutePath place.shown}"
  note s s!"Output: {absolutePath output}"
  say "Parsing schema..."
  let texts := (place.tree.schemaFilesAt place.way).map fun f => unixLines f.text
  let schema ← orFail .malformedDocument (Schema.read? texts)
  let examples? ← match s.operations?.bind fun path => ws.tree.fileAt? (ws.tree.wayTo path) with
    | none => pure none
    | some f => do
      pure (some (← orFail .malformedDocument (ExampleDocument.read? (unixLines f.text))))
  note s s!"  Types: {schema.types.length}"
  match examples? with
  | none => pure ()
  | some examples => note s s!"  Example operations: {examples.length}"
  say "Generating code..."
  let context : Context :=
    { schema, config := s.config, scalars := s.scalars, examples := examples?.getD [] }
  let made ← lift .run (generate context)
  note s s!"  Query classes: {made.queries.length}"
  note s s!"  Projections: {made.projections.length}"
  note s s!"  Data types: {made.dataTypes.length}"
  let templates := (s.templateDirectory?.map (templatesOf ws.tree)).getD {}
  let files ← lift .render (Render.render s.config templates s.header?.toList made)
  say s!"Done! Generated {files.length} files in {absolutePath output}"
  return files.map fun f => { f with path := joinedPath (output ++ [f.path]) }

/-- Carries out a command line. -/
def job (ws : Workspace) : List String → Job (List TextFile)
  | "generate" :: words => do
    generateClient ws (← lift .usage (Settings.ofWords ws.tree words))
  | words => throw (.usage (.words (.unknownCommand (words.headD ""))))

/-- The files that a command line writes, or why it fails, and the lines that it prints. -/
def run (ws : Workspace) (words : List String) : Except Failure (List TextFile) × List String :=
  (job ws words).run.run []

end ClientGen.Command
