/-!
# Character tables

A set of characters is a list of code point ranges, ascending and with both ends included;
a case mapping is a list of runs. The tables themselves stand in the modules that give them
a meaning.
-/

namespace ClientGen.Text

/-- Lies in one of the ranges; the first range that begins above the character ends the
search. -/
def inRanges : List (Nat × Nat) → Char → Bool
  | [], _ => false
  | (first, last) :: rest, c =>
    if c.toNat < first then false else c.toNat ≤ last || inRanges rest c

/-- Every `stride`-th code point from `first` to `last` moves by `shift`. -/
structure CaseRun where
  first : Nat
  last : Nat
  stride : Nat
  shift : Int

namespace CaseRun

/-- One of the code points that the run moves. -/
def covers (r : CaseRun) (c : Char) : Bool :=
  r.first ≤ c.toNat && c.toNat ≤ r.last && (c.toNat - r.first) % r.stride == 0

/-- Where the run moves a character. -/
def move (r : CaseRun) (c : Char) : Char :=
  Char.ofNat (Int.toNat (c.toNat + r.shift))

end CaseRun

end ClientGen.Text
