import ClientGen.Archive.Zip
import ClientGen.Command.Run

/-!
# Command line

Reads the files that the words of the command line name, runs the command on them, writes the
files of the client and prints what there is to tell.
-/

namespace ClientGen.Command

/-- Reads what is at a place: a file, or all files of a directory. -/
partial def load (way : List String) (place : IO.FS.DirEntry) (ws : Workspace) :
    IO Workspace := do
  if ← place.path.isDir then
    let tree := { ws.tree with directories := way :: ws.tree.directories }
    (← place.path.readDir).foldlM
      (fun ws below => load (way ++ [below.fileName]) below ws) { ws with tree }
  else if ← place.path.pathExists then
    let bytes ← IO.FS.readBinFile place.path
    let path := joinedPath way
    let tree := ws.tree.put ⟨path, (String.fromUTF8? bytes).getD ""⟩
    let archive? := if Archive.isArchiveName path then Archive.ofBytes? path bytes else none
    return { ws with tree, archives := ws.archives ++ archive?.toList }
  else return ws

/-- The options whose values are paths of what is read. -/
def readsPath (s : Setting) : Bool :=
  s = .schema || s = .operations || s = .templateDirectory

/-- Reads the files that a command line names. -/
def workspaceFor (words : List String) : IO Workspace := do
  let here ← IO.currentDir
  let home := here.components.filter (· ≠ "")
  let given : List Given := match readWords words with
    | .ok (given, _) => given.filter (readsPath ·.setting)
    | .error _ => []
  given.foldlM (fun ws g => load (ws.tree.wayTo g.value) ⟨here, g.value⟩ ws)
    { tree := { home }, scratch := ["tmp", "schema"] }

/-- Writes a file, and makes the directories on the way to it. -/
def writeOut (f : TextFile) : IO Unit := do
  let place := (← IO.currentDir) / ("/" ++ f.path)
  IO.FS.createDirAll (place.parent.getD place)
  IO.FS.writeFile place f.text

/-- Carries out a command line, and answers its exit code. -/
def execute (words : List String) : IO UInt32 := do
  let (result, lines) := run (← workspaceFor words) words
  match result with
  | .ok files =>
    files.forM writeOut
    lines.forM IO.println
    return 0
  | .error e =>
    lines.forM IO.println
    IO.eprintln s!"Error: {e.message}"
    return match e with
      | .usage _ => 2
      | _ => 1

end ClientGen.Command

/-- Carries out the words of the command line. -/
def main (words : List String) : IO UInt32 :=
  ClientGen.Command.execute words
