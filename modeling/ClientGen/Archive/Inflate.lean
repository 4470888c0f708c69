/-!
# Compressed data

The DEFLATE format: blocks of bytes that are stored as they are, or of symbols in a prefix
code, each of which stands for a byte or for a piece of what came before.

Main definition: `Archive.inflate?`.
-/

namespace ClientGen.Archive

/-! ## Bits -/

/-- Reads from bytes; the state is the number of bits that have been taken. -/
abbrev BitReader := ReaderT ByteArray (StateT Nat Option)

namespace BitReader

/-- The next bit; the lowest bit of a byte comes first. -/
def bit : BitReader Nat := fun bytes position =>
  (bytes.data[position / 8]?).map fun b => (b.toNat >>> (position % 8) % 2, position + 1)

/-- A number of so many bits, the lowest first. -/
def bits : Nat → BitReader Nat
  | 0 => return 0
  | n + 1 => do
    let low ← bit
    let high ← bits n
    return low + 2 * high

/-- Goes on to the next whole byte. -/
def alignByte : BitReader Unit := fun _ position => some ((), (position + 7) / 8 * 8)

/-- So many whole bytes. -/
def takeBytes (n : Nat) : BitReader ByteArray := fun bytes position =>
  let start := position / 8
  if start + n ≤ bytes.size then some (bytes.extract start (start + n), position + 8 * n)
  else none

end BitReader

open BitReader

/-! ## Prefix codes -/

/-- A canonical prefix code: how many codes there are of each length, and the symbols in the
order of their codes. -/
structure PrefixCode where
  counts : List Nat
  symbols : Array Nat
deriving Repr

namespace PrefixCode

/-- The longest code. -/
def maxLength : Nat := 15

/-- The code in which each symbol has a code of the given length; of length 0 there are
none. -/
def ofLengths (lengths : List Nat) : PrefixCode :=
  let ofLength (n : Nat) : List Nat :=
    (lengths.zipIdx.filter (·.1 = n)).map (·.2)
  let rows := (List.range maxLength).map fun i => ofLength (i + 1)
  ⟨rows.map (·.length), rows.flatten.toArray⟩

/-- Reads on from a code that has been read in part. Of the codes of the lengths so far, `first`
is the least of the current length, and `index` symbols have shorter codes. -/
def symbolFrom (symbols : Array Nat) (code first index : Nat) : List Nat → BitReader Nat
  | [] => fun _ _ => none
  | count :: counts => do
    let code := code + (← bit)
    if code < first + count then fun _ position =>
      (symbols[index + (code - first)]?).map fun s => (s, position)
    else symbolFrom symbols (2 * code) (2 * (first + count)) (index + count) counts

/-- The next symbol. -/
def symbol (c : PrefixCode) : BitReader Nat :=
  symbolFrom c.symbols 0 0 0 c.counts

/-- The code for symbols where no other is given. -/
def fixedSymbols : PrefixCode :=
  ofLengths (List.replicate 144 8 ++ List.replicate 112 9 ++ List.replicate 24 7 ++
    List.replicate 8 8)

/-- The code for distances where no other is given. -/
def fixedDistances : PrefixCode :=
  ofLengths (List.replicate 30 5)

end PrefixCode

/-! ## Lengths of codes -/

/-- The order in which the lengths of the codes for lengths are given. -/
def lengthOrder : List Nat :=
  [16, 17, 18, 0, 8, 7, 9, 6, 10, 5, 11, 4, 12, 3, 13, 2, 14, 1, 15]

/-- Lengths until there are so many. The fuel bounds the number of symbols. -/
def codeLengths (code : PrefixCode) (wanted : Nat) : Nat → List Nat → BitReader (List Nat)
  | 0, _ => fun _ _ => none
  | fuel + 1, lengths => do
    if wanted ≤ lengths.length then return lengths.take wanted
    let s ← code.symbol
    let (value, times) ←
      if s < 16 then pure (s, 1)
      else if s = 16 then pure (lengths.getLastD 0, 3 + (← bits 2))
      else if s = 17 then pure (0, 3 + (← bits 3))
      else pure (0, 11 + (← bits 7))
    codeLengths code wanted fuel (lengths ++ List.replicate times value)

/-- The codes for symbols and for distances that a block brings along. -/
def ownCodes : BitReader (PrefixCode × PrefixCode) := do
  let symbolCount := 257 + (← bits 5)
  let distanceCount := 1 + (← bits 5)
  let given ← (lengthOrder.take (4 + (← bits 4))).mapM fun place => do
    return (place, ← bits 3)
  let code := PrefixCode.ofLengths ((List.range 19).map fun i => (given.lookup i).getD 0)
  let wanted := symbolCount + distanceCount
  let lengths ← codeLengths code wanted (wanted + 1) []
  return (.ofLengths (lengths.take symbolCount), .ofLengths (lengths.drop symbolCount))

/-! ## Blocks -/

/-- The least length of a piece for each symbol after the end sign, with the number of bits
that are added to it. -/
def pieceLengths : Array (Nat × Nat) :=
  #[(3, 0), (4, 0), (5, 0), (6, 0), (7, 0), (8, 0), (9, 0), (10, 0), (11, 1), (13, 1), (15, 1),
    (17, 1), (19, 2), (23, 2), (27, 2), (31, 2), (35, 3), (43, 3), (51, 3), (59, 3), (67, 4),
    (83, 4), (99, 4), (115, 4), (131, 5), (163, 5), (195, 5), (227, 5), (258, 0)]

/-- The least distance of a piece for each symbol, with the number of bits that are added to
it. -/
def pieceDistances : Array (Nat × Nat) :=
  #[(1, 0), (2, 0), (3, 0), (4, 0), (5, 1), (7, 1), (9, 2), (13, 2), (17, 3), (25, 3), (33, 4),
    (49, 4), (65, 5), (97, 5), (129, 6), (193, 6), (257, 7), (385, 7), (513, 8), (769, 8),
    (1025, 9), (1537, 9), (2049, 10), (3073, 10), (4097, 11), (6145, 11), (8193, 12),
    (12289, 12), (16385, 13), (24577, 13)]

/-- A number from a table, with the bits that are added to it. -/
def fromTable (table : Array (Nat × Nat)) (place : Nat) : BitReader Nat := do
  match table[place]? with
  | none => fun _ _ => none
  | some (least, more) => return least + (← bits more)

/-- Bytes with a piece of them again at the end; the piece may reach into itself. -/
def repeatPiece (distance : Nat) : Nat → ByteArray → ByteArray
  | 0, out => out
  | n + 1, out => repeatPiece distance n (out.push (out.data.getD (out.size - distance) 0))

/-- The symbols of a block up to its end sign, after what came before. -/
def blockSymbols (symbols distances : PrefixCode) : Nat → ByteArray → BitReader ByteArray
  | 0, _ => fun _ _ => none
  | fuel + 1, out => do
    let s ← symbols.symbol
    if s < 256 then blockSymbols symbols distances fuel (out.push (UInt8.ofNat s))
    else if s = 256 then return out
    else
      let length ← fromTable pieceLengths (s - 257)
      let distance ← fromTable pieceDistances (← distances.symbol)
      if out.size < distance then fun _ _ => none
      else blockSymbols symbols distances fuel (repeatPiece distance length out)

/-- A block, after what came before. -/
def block (fuel : Nat) (out : ByteArray) : BitReader ByteArray := do
  match ← bits 2 with
  | 0 =>
    alignByte
    let length ← bits 16
    let _ ← bits 16
    return out ++ (← takeBytes length)
  | 1 => blockSymbols .fixedSymbols .fixedDistances fuel out
  | 2 =>
    let (symbols, distances) ← ownCodes
    blockSymbols symbols distances fuel out
  | _ => fun _ _ => none

/-- Blocks up to the last one. -/
def blocks : Nat → ByteArray → BitReader ByteArray
  | 0, _ => fun _ _ => none
  | fuel + 1, out => do
    let isLast ← bit
    let out ← block (fuel + 1) out
    if isLast = 1 then return out else blocks fuel out

/-- The bytes that compressed bytes stand for. -/
def inflate? (bytes : ByteArray) : Option ByteArray :=
  (blocks (8 * bytes.size + 1) .empty bytes 0).map (·.1)

end ClientGen.Archive
