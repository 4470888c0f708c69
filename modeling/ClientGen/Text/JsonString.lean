import ClientGen.Text.Quoted

/-!
# String literals in ASCII

A text between double quotes, in ASCII alone. The double quote, the backslash and five
controls have two-character escapes; whatever else is not a visible ASCII character or the
space is written as `\uXXXX`, and beyond the basic plane as a pair of surrogates.
-/

namespace ClientGen.Text

/-- The escape of one unit of sixteen bits. -/
def unitEscape (n : Nat) : List Char :=
  '\\' :: 'u' :: hexDigits 4 n

/-- A character inside a string literal. -/
def literalChar (c : Char) : List Char :=
  if c == '"' then ['\\', '"']
  else if c == '\\' then ['\\', '\\']
  else if c == '\n' then ['\\', 'n']
  else if c == '\r' then ['\\', 'r']
  else if c == '\t' then ['\\', 't']
  else if c == '\x0c' then ['\\', 'f']
  else if c == '\x08' then ['\\', 'b']
  else if 0x20 ≤ c.toNat && c.toNat ≤ 0x7E then [c]
  else if c.toNat < 0x10000 then unitEscape c.toNat
  else
    let n := c.toNat - 0x10000
    unitEscape (0xD800 + n / 0x400) ++ unitEscape (0xDC00 + n % 0x400)

/-- The text as a string literal. -/
def stringLiteral (s : String) : String :=
  String.ofList ('"' :: s.toList.flatMap literalChar ++ ['"'])

end ClientGen.Text
