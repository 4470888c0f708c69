import ClientGen.Document.Token

/-!
# Strings in program texts

The letters in front of a string, its span between quotes and its escapes. Of an escape that
names a character only the form is looked at: every name counts as that of a character.
-/

namespace ClientGen.Source

/-- The letters in front of a string. -/
structure StringMarks where
  isRaw : Bool
  isBytes : Bool
  isFormat : Bool

/-- What a word in front of a quote means, if it may stand there. -/
def marksOf? (word : List Char) : Option StringMarks :=
  match word.map Char.toLower with
  | [] => some ⟨false, false, false⟩
  | ['u'] => some ⟨false, false, false⟩
  | ['r'] => some ⟨true, false, false⟩
  | ['b'] => some ⟨false, true, false⟩
  | ['f'] => some ⟨false, false, true⟩
  | ['b', 'r'] | ['r', 'b'] => some ⟨true, true, false⟩
  | ['f', 'r'] | ['r', 'f'] => some ⟨true, false, true⟩
  | _ => none

/-- The content of a string on one line, and what follows the closing quote. -/
def shortString? (quote : Char) : List Char → Option (List Char × List Char)
  | [] => none
  | '\\' :: c :: cs => (shortString? quote cs).map fun (s, r) => ('\\' :: c :: s, r)
  | c :: cs =>
    if c == quote then some ([], cs)
    else if c == '\n' then none
    else (shortString? quote cs).map fun (s, r) => (c :: s, r)

/-- The content of a string between triple quotes, and what follows them. -/
def longString? (quote : Char) : List Char → Option (List Char × List Char)
  | [] => none
  | '\\' :: c :: cs => (longString? quote cs).map fun (s, r) => ('\\' :: c :: s, r)
  | a :: cs =>
    if a == quote && cs.take 2 == [quote, quote] then some ([], cs.drop 2)
    else (longString? quote cs).map fun (s, r) => (a :: s, r)

/-- The content of the string that begins a text with its quote, and what follows it. -/
def string? (cs : List Char) : Option (List Char × List Char) :=
  match cs with
  | q :: r :: s :: more =>
    if r == q && s == q then longString? q more else shortString? q (r :: s :: more)
  | q :: more => shortString? q more
  | [] => none

/-- The next `n` characters are hexadecimal digits of a code point. -/
def escapesPoint (n : Nat) (cs : List Char) : Bool :=
  (cs.take n).length = n && ((Document.Token.hexNumber? (cs.take n)).any (· ≤ 0x10FFFF))

/-- What follows a backslash is a whole escape, or no escape that has parts. -/
def escapeOk (isBytes : Bool) : List Char → Bool
  | 'x' :: cs => escapesPoint 2 cs
  | 'u' :: cs => isBytes || escapesPoint 4 cs
  | 'U' :: cs => isBytes || escapesPoint 8 cs
  | 'N' :: cs => isBytes || (cs.head? = some '\x7b' && cs.contains '\x7d')
  | _ => true

/-- The escapes of a string are well formed. -/
def escapesOk (isBytes : Bool) : List Char → Bool
  | [] => true
  | '\\' :: c :: cs => escapeOk isBytes (c :: cs) && escapesOk isBytes cs
  | _ :: cs => escapesOk isBytes cs

end ClientGen.Source
