/-!
# SHA-1

The 160-bit digest of a byte string, in hexadecimal: the message is padded to blocks of 64
bytes, each block is spread to eighty words, and eighty rounds fold the words into five words
of state.
-/

namespace ClientGen.Digest.Sha1

/-! ## Padding and blocks -/

/-- A word of thirty-two bits from the first four bytes, the most significant first. -/
private def word (bytes : List UInt8) : UInt32 :=
  (bytes.take 4).foldl (fun w b => (w <<< 8) ||| b.toUInt32) 0

/-- The words of a byte string whose length is a multiple of four. -/
private def words : Nat → List UInt8 → List UInt32
  | 0, _ => []
  | n + 1, bytes => word bytes :: words n (bytes.drop 4)

/-- A length in bits, as eight bytes. -/
private def lengthBytes (n : Nat) : List UInt8 :=
  (List.range 8).map fun i => UInt8.ofNat (n / Nat.pow 256 (7 - i))

/-- The message, a one bit, zeros, and its length in bits: a multiple of 64 bytes. -/
def padded (message : List UInt8) : List UInt8 :=
  let zeros := (119 - message.length % 64) % 64
  message ++ 0x80 :: List.replicate zeros 0 ++ lengthBytes (8 * message.length)

/-! ## Rounds -/

/-- The words of state. -/
structure State where
  a : UInt32
  b : UInt32
  c : UInt32
  d : UInt32
  e : UInt32

/-- The state before the first block. -/
def initial : State :=
  ⟨0x67452301, 0xEFCDAB89, 0x98BADCFE, 0x10325476, 0xC3D2E1F0⟩

private def rotateLeft (w : UInt32) (n : UInt32) : UInt32 :=
  (w <<< n) ||| (w >>> (32 - n))

/-- Continues the schedule, latest word first: each new word is the rotated sum of the words
3, 8, 14 and 16 places back. -/
private def extend : Nat → List UInt32 → List UInt32
  | 0, latest => latest
  | n + 1, latest =>
    let back (i : Nat) := latest.getD (i - 1) 0
    extend n (rotateLeft (back 3 ^^^ back 8 ^^^ back 14 ^^^ back 16) 1 :: latest)

/-- The eighty words of a block. -/
private def schedule (block : List UInt8) : List UInt32 :=
  (extend 64 (words 16 block).reverse).reverse

/-- The mixing function and the constant of a round. -/
private def mixing (round : Nat) (s : State) : UInt32 × UInt32 :=
  if round < 20 then ((s.b &&& s.c) ||| (~~~s.b &&& s.d), 0x5A827999)
  else if round < 40 then (s.b ^^^ s.c ^^^ s.d, 0x6ED9EBA1)
  else if round < 60 then ((s.b &&& s.c) ||| (s.b &&& s.d) ||| (s.c &&& s.d), 0x8F1BBCDC)
  else (s.b ^^^ s.c ^^^ s.d, 0xCA62C1D6)

private def step (s : State) (round : Nat) (w : UInt32) : State :=
  let (f, k) := mixing round s
  ⟨rotateLeft s.a 5 + f + s.e + k + w, s.a, rotateLeft s.b 30, s.c, s.d⟩

private def rounds (s : State) : Nat → List UInt32 → State
  | _, [] => s
  | i, w :: ws => rounds (step s i w) (i + 1) ws

/-- Adds a block to the state. -/
def absorb (s : State) (block : List UInt8) : State :=
  let t := rounds s 0 (schedule block)
  ⟨s.a + t.a, s.b + t.b, s.c + t.c, s.d + t.d, s.e + t.e⟩

private def absorbAll : Nat → State → List UInt8 → State
  | 0, s, _ => s
  | n + 1, s, bytes => absorbAll n (absorb s (bytes.take 64)) (bytes.drop 64)

/-! ## The digest -/

private def hexDigit (n : Nat) : Char :=
  if n < 10 then Char.ofNat (n + 0x30) else Char.ofNat (n - 10 + 0x61)

private def wordHex (w : UInt32) : List Char :=
  (List.range 8).map fun i => hexDigit (w.toNat / Nat.pow 16 (7 - i) % 16)

/-- The digest of a byte string, as forty hexadecimal digits in lower case. -/
def hexOfBytes (message : List UInt8) : List Char :=
  let bytes := padded message
  let s := absorbAll (bytes.length / 64) initial bytes
  [s.a, s.b, s.c, s.d, s.e].flatMap wordHex

/-- The digest of a text in UTF-8. -/
def hex (text : String) : List Char :=
  hexOfBytes text.toUTF8.toList

/-- The digits of a digest. -/
def hexDigits : List Char := "0123456789abcdef".toList

theorem mem_hexDigits_of_mem_hex {text : String} {c : Char} (h : c ∈ hex text) :
    c ∈ hexDigits := by
  have hdigit : ∀ n < 16, hexDigit n ∈ hexDigits := by decide
  obtain ⟨w, _, hw⟩ := List.mem_flatMap.mp h
  obtain ⟨i, _, rfl⟩ := List.mem_map.mp hw
  exact hdigit _ (Nat.mod_lt _ (by decide))

/-- A digest has forty digits. -/
theorem length_hex (text : String) : (hex text).length = 40 := by
  unfold hex hexOfBytes
  simp [wordHex]

end ClientGen.Digest.Sha1
