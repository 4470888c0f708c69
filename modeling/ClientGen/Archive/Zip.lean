import ClientGen.Archive.Basic
import ClientGen.Archive.Inflate

/-!
# Zip archives

The ZIP format: members with their data, and at the end a directory that tells where they
are. Members are stored as they are or deflated.

Main definition: `Archive.ofBytes?`.
-/

namespace ClientGen.Archive

/-! ## Numbers -/

/-- The number in so many bytes from a place on, the lowest byte first. -/
def numberAt? (bytes : ByteArray) (place : Nat) : Nat → Option Nat
  | 0 => some 0
  | n + 1 => do
    let low ← bytes.data[place]?
    let high ← numberAt? bytes (place + 1) n
    return low.toNat + 256 * high

/-- So many bytes from a place on. -/
def bytesAt? (bytes : ByteArray) (place length : Nat) : Option ByteArray :=
  if place + length ≤ bytes.size then some (bytes.extract place (place + length)) else none

/-! ## Directory -/

/-- The sign at the end of the directory. -/
def endSign : Nat := 0x06054b50

/-- The sign of an entry of the directory. -/
def entrySign : Nat := 0x02014b50

/-- The sign of a member. -/
def memberSign : Nat := 0x04034b50

/-- The last place before the given one at which there is the end of the directory. -/
def endBefore? (bytes : ByteArray) : Nat → Option Nat
  | 0 => none
  | place + 1 =>
    if numberAt? bytes place 4 = some endSign then some place else endBefore? bytes place

/-- An entry of the directory. -/
structure ZipEntry where
  name : String
  method : Nat
  /-- How many bytes the data have in the archive. -/
  packedSize : Nat
  /-- Where the member is. -/
  place : Nat
deriving Repr

/-- The entry at a place, and where the next one is. -/
def entryAt? (bytes : ByteArray) (place : Nat) : Option (ZipEntry × Nat) := do
  let number (offset width : Nat) : Option Nat := numberAt? bytes (place + offset) width
  if (← number 0 4) ≠ entrySign then none
  let nameSize ← number 28 2
  let entry : ZipEntry :=
    { name := ← String.fromUTF8? (← bytesAt? bytes (place + 46) nameSize)
      method := ← number 10 2
      packedSize := ← number 20 4
      place := ← number 42 4 }
  return (entry, place + 46 + nameSize + (← number 30 2) + (← number 32 2))

/-- So many entries from a place on. -/
def entriesFrom? (bytes : ByteArray) : Nat → Nat → Option (List ZipEntry)
  | 0, _ => some []
  | n + 1, place => do
    let (entry, next) ← entryAt? bytes place
    return entry :: (← entriesFrom? bytes n next)

/-! ## Members -/

/-- The data of a member. -/
def data? (bytes : ByteArray) (e : ZipEntry) : Option ByteArray := do
  if (← numberAt? bytes e.place 4) ≠ memberSign then none
  let nameSize ← numberAt? bytes (e.place + 26) 2
  let extraSize ← numberAt? bytes (e.place + 28) 2
  let packed ← bytesAt? bytes (e.place + 30 + nameSize + extraSize) e.packedSize
  match e.method with
  | 0 => some packed
  | 8 => inflate? packed
  | _ => none

/-- The member of an entry; nothing if it is no text. -/
def member? (bytes : ByteArray) (e : ZipEntry) : Option (Option TextFile) := do
  let data ← data? bytes e
  return (String.fromUTF8? data).map fun text => ⟨e.name, text⟩

/-- The archive that bytes are, if they are one. Members that are no texts are left out. -/
def ofBytes? (path : String) (bytes : ByteArray) : Option Archive := do
  let place ← endBefore? bytes bytes.size
  let count ← numberAt? bytes (place + 10) 2
  let start ← numberAt? bytes (place + 16) 4
  let entries ← entriesFrom? bytes count start
  let members ← entries.mapM (member? bytes)
  return ⟨path, members.filterMap id⟩

end ClientGen.Archive
