import ClientGen.Files
import ClientGen.Text.Case

/-!
# Archives

An archive stands for the directory of its members. Which files count as archives is seen
from their names.

Main definition: `Archive.unpacked`, the files of an archive.
-/

namespace ClientGen

/-- An archive: its path and its members. -/
structure Archive where
  path : String
  members : List TextFile
deriving Repr, DecidableEq

namespace Archive

/-- The path of a member below the directory into which it is unpacked: steps that stay in
place or go back are left out. -/
def memberPath (path : String) : String :=
  joinedPath ((Text.parts '/' path).filter fun step => step ∉ ["", ".", ".."])

/-- The files of an archive; of two with one path the later one counts. A member whose path
ends in a slash is a directory. -/
def unpacked (a : Archive) : FileTree :=
  (a.members.filter (!·.path.endsWith "/")).foldl
    (fun tree m => tree.put ⟨memberPath m.path, m.text⟩) {}

/-- Is the name of an archive, in whatever case. -/
def isArchiveName (name : String) : Bool :=
  let name := Text.lower name
  [".zip", ".tar.gz", ".tgz"].any fun e => name.endsWith e

/-- The end of a name from its last dot on, unless the name begins or ends with that dot. -/
def suffix (name : String) : String :=
  match Text.cutLast? '.' name.toList with
  | some (_ :: _, c :: cs) => String.ofList ('.' :: c :: cs)
  | _ => ""

end Archive

end ClientGen
