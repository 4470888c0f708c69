import ClientGen.Text.Blank

/-!
# Descriptions in generated text

A description of the schema stands in a docstring or in a comment. It is written so that it
cannot leave its place: in a docstring no quote of it closes the literal, and a comment stays
on its line.
-/

namespace ClientGen.Render

/-! ## Docstrings -/

/-- Escapes backslashes and runs of three double quotes. -/
def escapeDocstring : List Char → List Char
  | [] => []
  | '"' :: '"' :: '"' :: cs => '\\' :: '"' :: '\\' :: '"' :: '\\' :: '"' :: escapeDocstring cs
  | '\\' :: cs => '\\' :: '\\' :: escapeDocstring cs
  | c :: cs => c :: escapeDocstring cs

/-- The text between the quotes of a docstring; a quote at its end is kept off the closing
quotes by a space. -/
def docstringChars (cs : List Char) : List Char :=
  let escaped := escapeDocstring cs
  if escaped.getLast? = some '"' then escaped ++ [' '] else escaped

/-- The text between the quotes of a docstring. -/
def docstringText (description : String) : String :=
  String.ofList (docstringChars description.toList)

/-! ## Comments -/

/-- Writes every run of blanks as one space; `after` says that a space has just been
written. -/
def collapseBlanks (after : Bool) : List Char → List Char
  | [] => []
  | c :: cs =>
    if Text.isBlank c then
      if after then collapseBlanks true cs else ' ' :: collapseBlanks true cs
    else c :: collapseBlanks false cs

/-- How long a comment may be. -/
def commentLimit : Nat := 120

/-- Cuts a text that is too long, and says so with three points. -/
def truncated (cs : List Char) : List Char :=
  if commentLimit < cs.length then cs.take (commentLimit - 3) ++ ['.', '.', '.'] else cs

/-- The text of a comment: without carriage returns and asterisks, on one line, and not too
long. -/
def commentChars (cs : List Char) : List Char :=
  let kept := cs.filter fun c => c != '\r' && c != '*'
  Text.strippedChars (truncated (collapseBlanks false kept))

/-- The text of a comment. -/
def commentText (description : String) : String :=
  String.ofList (commentChars description.toList)

/-! ## Missing descriptions -/

/-- A description that is there and not empty. -/
def present? (description? : Option String) : Option String :=
  description?.filter (· ≠ "")

end ClientGen.Render
