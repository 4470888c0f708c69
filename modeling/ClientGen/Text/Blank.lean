import ClientGen.Text.Table

/-!
# White space

The characters of the bidirectional types B, S and WS and the category Zs: the ASCII blanks
with the four information separators, and the wider blanks of Unicode.
-/

namespace ClientGen.Text

/-- The blanks, as ascending ranges. -/
def blankRanges : List (Nat × Nat) :=
  [(0x9, 0xD), (0x1C, 0x20), (0x85, 0x85), (0xA0, 0xA0), (0x1680, 0x1680), (0x2000, 0x200A),
   (0x2028, 0x2029), (0x202F, 0x202F), (0x205F, 0x205F), (0x3000, 0x3000)]

/-- White space. -/
def isBlank (c : Char) : Bool :=
  inRanges blankRanges c

/-- Without the blanks at its ends. -/
def strippedChars (cs : List Char) : List Char :=
  ((cs.dropWhile isBlank).reverse.dropWhile isBlank).reverse

/-- Without the blanks at its ends. -/
def stripped (s : String) : String :=
  String.ofList (strippedChars s.toList)

end ClientGen.Text
