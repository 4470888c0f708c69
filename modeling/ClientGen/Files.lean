import ClientGen.Text.Split

/-!
# Files of text

A tree of files as a value: the list of its files with their paths, seen from a working
directory. A directory is there if a file is below it.

Main definitions: `FileTree.entry?`, what a path leads to; `FileTree.filesBelow`, the files of
a directory and of those in it.
-/

namespace ClientGen

/-! ## Texts and paths -/

/-- The text with every line end as a line feed. -/
def unixLines (text : String) : String :=
  String.ofList (go text.toList)
where
  /-- On characters. -/
  go : List Char → List Char
    | [] => []
    | '\r' :: '\n' :: cs => '\n' :: go cs
    | '\r' :: cs => '\n' :: go cs
    | c :: cs => c :: go cs

/-- A file of text. Its path goes from the top of a tree, without a slash before it. -/
structure TextFile where
  path : String
  text : String
deriving Repr, DecidableEq

/-- The names on a way as a path. -/
def joinedPath (way : List String) : String :=
  "/".intercalate way

/-- A way goes on by one step of a path, which may stay in place or go back. -/
def pathStep (way : List String) (name : String) : List String :=
  if name = "" || name = "." then way
  else if name = ".." then way.dropLast
  else way ++ [name]

/-! ## Trees -/

/-- A tree of files, seen from one of its directories. -/
structure FileTree where
  files : List TextFile := []
  /-- The way from the top to the working directory. -/
  home : List String := []
  /-- Ways to directories that are there even without files. -/
  directories : List (List String) := []
deriving Repr

/-- What a path leads to. -/
inductive Entry where
  | file (content : TextFile)
  | directory
deriving Repr, DecidableEq

namespace FileTree

/-- The tree with a file, in place of one with the same path. -/
def put (tree : FileTree) (f : TextFile) : FileTree :=
  { tree with files := tree.files.filter (·.path ≠ f.path) ++ [f] }

/-- The file at the end of a way. -/
def fileAt? (tree : FileTree) (way : List String) : Option TextFile :=
  tree.files.find? (·.path = joinedPath way)

/-- The files below the directory at the end of a way. -/
def filesBelow (tree : FileTree) (way : List String) : List TextFile :=
  if way.isEmpty then tree.files
  else tree.files.filter (·.path.startsWith (joinedPath way ++ "/"))

/-- A directory is there because of what is below it, or by itself. The working directory is
always there. -/
def hasDirectory (tree : FileTree) (way : List String) : Bool :=
  (tree.home :: tree.directories).any way.isPrefixOf || !(tree.filesBelow way).isEmpty

/-- What is at the end of a way. -/
def entryAt? (tree : FileTree) (way : List String) : Option Entry :=
  match tree.fileAt? way with
  | some f => some (.file f)
  | none => if tree.hasDirectory way then some .directory else none

/-- Where a path starts: at the top if it begins with a slash. -/
def start (tree : FileTree) (path : String) : List String :=
  if path.startsWith "/" then [] else tree.home

/-- The way from the top to what a path means, whether or not there is something. -/
def wayTo (tree : FileTree) (path : String) : List String :=
  (Text.parts '/' path).foldl pathStep (tree.start path)

/-- Follows the steps of a path; each of them has to start from a directory. -/
def follow? (tree : FileTree) : List String → List String → Option Entry
  | way, [] => tree.entryAt? way
  | way, name :: names =>
    if tree.entryAt? way = some .directory then tree.follow? (pathStep way name) names else none

/-- What a path leads to. The empty path leads nowhere. -/
def entry? (tree : FileTree) (path : String) : Option Entry :=
  if path = "" then none else tree.follow? (tree.start path) (Text.parts '/' path)

end FileTree

end ClientGen
