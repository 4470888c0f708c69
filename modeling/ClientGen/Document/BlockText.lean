/-!
# Block strings

The text of a block string: the raw characters are cut into lines, the indentation that all
lines but the first have in common is removed, blank lines at both ends are dropped, and the
rest is joined with line feeds.
-/

namespace ClientGen.Document

/-- The lines of a text; a line ends with a line feed, a carriage return or both in that
order. -/
def linesOf : List Char → List (List Char)
  | [] => [[]]
  | '\r' :: '\n' :: cs => [] :: linesOf cs
  | '\n' :: cs => [] :: linesOf cs
  | '\r' :: cs => [] :: linesOf cs
  | c :: cs =>
    match linesOf cs with
    | [] => [[c]]
    | line :: rest => (c :: line) :: rest

/-- The characters that indent a line. -/
def isIndent (c : Char) : Bool :=
  c == ' ' || c == '\t'

/-- Holds nothing but indentation. -/
def isBlankLine (line : List Char) : Bool :=
  line.all isIndent

/-- The number of leading blanks of a line. -/
def indentOf (line : List Char) : Nat :=
  (line.takeWhile isIndent).length

/-- The least indentation of the lines that are not blank. -/
def commonIndent (lines : List (List Char)) : Option Nat :=
  ((lines.filter (!isBlankLine ·)).map indentOf).min?

/-- Takes the common indentation off every line but the first. -/
def outdented : List (List Char) → List (List Char)
  | [] => []
  | first :: rest => first :: rest.map fun line => line.drop ((commonIndent rest).getD line.length)

/-- Without blank lines at the ends. -/
def withoutBlankEnds (lines : List (List Char)) : List (List Char) :=
  ((lines.dropWhile isBlankLine).reverse.dropWhile isBlankLine).reverse

/-- The text that a block string with these raw characters denotes. -/
def blockText (raw : List Char) : List Char :=
  ['\n'].intercalate (withoutBlankEnds (outdented (linesOf raw)))

end ClientGen.Document
