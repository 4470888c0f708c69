import ClientGen.Document.BlockText
import ClientGen.Number.Decimal

/-!
# Tokens

The lexical grammar of documents. `Token.next?` skips what is ignored and reads the longest
token that begins there; `Token.ofChars?` does so to the end of the text. A text that holds
no token at some place has none at all.
-/

namespace ClientGen.Document

open ClientGen.Number

/-- A lexical token. A string token carries the text it denotes, whichever way it was
written. -/
inductive Token where
  | mark (c : Char)
  | spread
  | name (text : String)
  | int (value : Int)
  | float (value : Decimal)
  | string (value : String)
deriving Repr, DecidableEq, Inhabited

namespace Token

/-! ## Character classes -/

/-- The marks of one character. -/
def isMark (c : Char) : Bool :=
  ['!', '$', '&', '(', ')', ':', '=', '@', '[', ']', '\x7b', '|', '\x7d'].contains c

/-- Begins a name. -/
def isNameStart (c : Char) : Bool :=
  c.isAlpha || c == '_'

/-- Continues a name. -/
def isNamePart (c : Char) : Bool :=
  isNameStart c || c.isDigit

/-- Ends a line. -/
def isLineEnd (c : Char) : Bool :=
  c == '\n' || c == '\r'

/-- Ignored between tokens; a comma and a byte order mark are as good as a blank. -/
def isIgnored (c : Char) : Bool :=
  c == ' ' || c == '\t' || c == ',' || c == '\uFEFF' || isLineEnd c

/-- The rest of a text from its next token on. `comment` says that a comment is open. -/
def skipIgnored (comment : Bool) : List Char → List Char
  | [] => []
  | c :: cs =>
    if comment then skipIgnored (!isLineEnd c) cs
    else if isIgnored c then skipIgnored false cs
    else if c == '#' then skipIgnored true cs
    else c :: cs

/-! ## Numbers -/

/-- What may not follow a number. -/
def clashesWithNumber : List Char → Bool
  | [] => false
  | c :: _ => c == '.' || isNameStart c

/-- A row of at least one digit, and the rest. -/
def digits? (cs : List Char) : Option (List Char × List Char) :=
  match cs.takeWhile Char.isDigit with
  | [] => none
  | ds => some (ds, cs.dropWhile Char.isDigit)

/-- The digits after a point; none if there is no point. -/
def fraction? : List Char → Option (List Char × List Char)
  | '.' :: cs => digits? cs
  | cs => some ([], cs)

/-- The number after a sign that may be missing. -/
def signed? : List Char → Option (Int × List Char)
  | '-' :: cs => (digits? cs).map fun (ds, r) => (-Int.ofNat (valueOfDigits ds), r)
  | '+' :: cs => (digits? cs).map fun (ds, r) => (Int.ofNat (valueOfDigits ds), r)
  | cs => (digits? cs).map fun (ds, r) => (Int.ofNat (valueOfDigits ds), r)

/-- The exponent; `none` inside if there is none. -/
def exponent? : List Char → Option (Option Int × List Char)
  | 'e' :: cs => (signed? cs).map fun (n, r) => (some n, r)
  | 'E' :: cs => (signed? cs).map fun (n, r) => (some n, r)
  | cs => some (none, cs)

/-- A number without its sign. A zero may not be followed by another digit. -/
def unsigned? (negative : Bool) (cs : List Char) : Option (Token × List Char) := do
  let (whole, cs) ← digits? cs
  if whole.head? = some '0' && 1 < whole.length then none
  let (fraction, cs) ← fraction? cs
  let (exponent, cs) ← exponent? cs
  if clashesWithNumber cs then none
  if fraction.isEmpty && exponent.isNone then
    let n := Int.ofNat (valueOfDigits whole)
    some (.int (if negative then -n else n), cs)
  else
    some (.float ⟨negative, valueOfDigits (whole ++ fraction),
      exponent.getD 0 - fraction.length⟩, cs)

/-! ## Strings -/

/-- The value of a hexadecimal digit. -/
def hexValue? (c : Char) : Option Nat :=
  if c.isDigit then some (c.toNat - 0x30)
  else if 'a' ≤ c && c ≤ 'f' then some (c.toNat - 0x61 + 10)
  else if 'A' ≤ c && c ≤ 'F' then some (c.toNat - 0x41 + 10)
  else none

/-- The number that a row of hexadecimal digits denotes. -/
def hexNumber? (cs : List Char) : Option Nat :=
  cs.foldlM (fun n c => (hexValue? c).map (16 * n + ·)) 0

/-- The character with a code point, if it is one and no surrogate. -/
def scalar? (n : Nat) : Option Char :=
  if n < 0xD800 || (0xDFFF < n && n ≤ 0x10FFFF) then some (Char.ofNat n) else none

/-- The character of a pair of surrogates. -/
def pair? (lead trail : Nat) : Option Char :=
  if 0xD800 ≤ lead && lead ≤ 0xDBFF && 0xDC00 ≤ trail && trail ≤ 0xDFFF then
    scalar? (0x10000 + (lead - 0xD800) * 0x400 + (trail - 0xDC00))
  else none

/-- A code point in braces, of one to eight hexadecimal digits. -/
def braced? (cs : List Char) : Option (Char × List Char) :=
  match cs.dropWhile (· != '\x7d') with
  | [] => none
  | _ :: rest => do
    let ds := cs.takeWhile (· != '\x7d')
    if ds.isEmpty || 8 < ds.length then none
    let n ← hexNumber? ds
    let c ← scalar? n
    some (c, rest)

/-- The second half of a pair of surrogates. -/
def trail? : List Char → Option (Nat × List Char)
  | '\\' :: 'u' :: a :: b :: c :: d :: cs => (hexNumber? [a, b, c, d]).map (·, cs)
  | _ => none

/-- The character of the escape whose backslash has been read. -/
def escape? : List Char → Option (Char × List Char)
  | 'u' :: '\x7b' :: cs => braced? cs
  | 'u' :: a :: b :: c :: d :: cs => do
    let n ← hexNumber? [a, b, c, d]
    match scalar? n with
    | some x => some (x, cs)
    | none =>
      let (m, cs) ← trail? cs
      let x ← pair? n m
      some (x, cs)
  | '"' :: cs => some ('"', cs)
  | '\\' :: cs => some ('\\', cs)
  | '/' :: cs => some ('/', cs)
  | 'b' :: cs => some ('\x08', cs)
  | 'f' :: cs => some ('\x0c', cs)
  | 'n' :: cs => some ('\n', cs)
  | 'r' :: cs => some ('\r', cs)
  | 't' :: cs => some ('\t', cs)
  | _ => none

/-- The text up to the closing quote. The fuel bounds the number of characters. -/
def stringText? : Nat → List Char → Option (List Char × List Char)
  | 0, _ => none
  | _, [] => none
  | _ + 1, '"' :: cs => some ([], cs)
  | fuel + 1, '\\' :: cs => do
    let (c, cs) ← escape? cs
    let (text, cs) ← stringText? fuel cs
    some (c :: text, cs)
  | fuel + 1, c :: cs =>
    if isLineEnd c then none
    else (stringText? fuel cs).map fun (text, cs) => (c :: text, cs)

/-- The raw text up to three closing quotes. -/
def blockRaw? : List Char → Option (List Char × List Char)
  | [] => none
  | '"' :: '"' :: '"' :: cs => some ([], cs)
  | '\\' :: '"' :: '"' :: '"' :: cs =>
    (blockRaw? cs).map fun (text, cs) => ('"' :: '"' :: '"' :: text, cs)
  | c :: cs => (blockRaw? cs).map fun (text, cs) => (c :: text, cs)

/-! ## Tokens -/

/-- The token that begins a text, and the rest. -/
def read? : List Char → Option (Token × List Char)
  | '.' :: '.' :: '.' :: cs => some (.spread, cs)
  | '"' :: '"' :: '"' :: cs =>
    (blockRaw? cs).map fun (raw, cs) => (.string (String.ofList (blockText raw)), cs)
  | '"' :: cs =>
    (stringText? (cs.length + 1) cs).map fun (text, cs) => (.string (String.ofList text), cs)
  | '-' :: cs => unsigned? true cs
  | c :: cs =>
    if isMark c then some (.mark c, cs)
    else if isNameStart c then
      some (.name (String.ofList (c :: cs.takeWhile isNamePart)), cs.dropWhile isNamePart)
    else unsigned? false (c :: cs)
  | [] => none

/-- The tokens of a text. The fuel bounds their number. -/
def readAll? : Nat → List Char → Option (List Token)
  | 0, _ => none
  | fuel + 1, cs =>
    match skipIgnored false cs with
    | [] => some []
    | cs => do
      let (token, cs) ← read? cs
      let tokens ← readAll? fuel cs
      some (token :: tokens)

/-- The tokens of a text, if it is made of tokens. -/
def ofChars? (cs : List Char) : Option (List Token) :=
  readAll? (cs.length + 1) cs

end Token

end ClientGen.Document
