import ClientGen.Files

/-!
# Schema files

Which files of a tree make up a schema, and in which order. A path may name one file or a
directory; of a directory all files below it count, sorted by their whole paths.
-/

namespace ClientGen.FileTree

/-- Has the name of a schema file. -/
def isSchemaFile (path : String) : Bool :=
  path.endsWith ".graphqls" || path.endsWith ".graphql"

/-- The schema files at the end of a way. -/
def schemaFilesAt (tree : FileTree) (way : List String) : List TextFile :=
  let found := match tree.entryAt? way with
    | some (.file f) => [f]
    | some .directory => tree.filesBelow way
    | none => []
  (found.filter (isSchemaFile ·.path)).mergeSort (fun a b => a.path ≤ b.path)

/-- The schema files that a path stands for. -/
def schemaFiles (tree : FileTree) (path : String) : List TextFile :=
  if (tree.entry? path).isSome then tree.schemaFilesAt (tree.wayTo path) else []

end ClientGen.FileTree
