import ClientGen.Files
import ClientGen.Source.FormatString
import ClientGen.Text.Identifier
import ClientGen.Text.Split

/-!
# Tokens of program texts

The lexical structure of Python: names, numbers, strings and operators, with tokens for the
ends of logical lines and for every change of indentation. Inside brackets, line ends and
indentation do not count.

Main definition: `Source.tokens?`.
-/

namespace ClientGen.Source

/-- A token. Keywords are names; of a number only its kind is kept, and of a string its kind
and the expressions in its slots. -/
inductive Token where
  | name (text : String)
  | number (isImaginary : Bool)
  | string (isBytes : Bool) (slots : List String)
  | op (text : String)
  | newline
  | indent
  | dedent
deriving Repr, DecidableEq, Inhabited

/-! ## Names and operators -/

/-- Belongs to a name, or looks so. -/
def isWordChar (c : Char) : Bool :=
  c.isAlphanum || c == '_' || 0x80 ≤ c.toNat

/-- The operators, longer ones before their beginnings. -/
def operators : List (List Char) :=
  ["**=", "//=", ">>=", "<<=", "...", "->", ":=", "==", "!=", "<=", ">=", "<<", ">>", "**",
   "//", "+=", "-=", "*=", "/=", "%=", "&=", "|=", "^=", "@=", "(", ")", "[", "]", "\x7b",
   "\x7d", ",", ":", ".", ";", "@", "=", "+", "-", "*", "/", "%", "&", "|", "^", "~", "<",
   ">"].map String.toList

/-- The longest operator that begins a text, and the rest. -/
def operator? (cs : List Char) : Option (String × List Char) :=
  (operators.find? (·.isPrefixOf cs)).map fun o => (String.ofList o, cs.drop o.length)

/-! ## Numbers -/

/-- Digits of a class, single underscores between them. -/
def digitsOf? (isDigit : Char → Bool) (cs : List Char) : Option (List Char × List Char) :=
  let run := cs.takeWhile fun c => isDigit c || c == '_'
  let single (ds : List Char) : Bool := (Text.splitAt '_' ds).all (!·.isEmpty)
  if run.isEmpty || !single run then none else some (run, cs.drop run.length)

/-- The words that may stand right after a number. -/
def wordsAfterNumber : List String :=
  ["and", "else", "for", "if", "in", "is", "or", "not"]

/-- Nothing after a number makes it part of a word. -/
def endsNumber (cs : List Char) : Bool :=
  let word := cs.takeWhile isWordChar
  word.isEmpty || wordsAfterNumber.contains (String.ofList word)

/-- An exponent, if there is a whole one. -/
def skipExponent (cs : List Char) : List Char :=
  match cs with
  | e :: rest =>
    if e == 'e' || e == 'E' then
      let unsigned := match rest with
        | '+' :: r => r
        | '-' :: r => r
        | r => r
      match digitsOf? Char.isDigit unsigned with
      | some (_, r) => r
      | none => cs
    else cs
  | [] => []

/-- A number with a base of its own. -/
def basedNumber? (cs : List Char) : Option (List Char) :=
  let after (isDigit : Char → Bool) (rest : List Char) : Option (List Char) :=
    let digits := if rest.head? = some '_' then rest.drop 1 else rest
    (digitsOf? isDigit digits).map (·.2)
  match cs with
  | '0' :: b :: rest =>
    if b == 'x' || b == 'X' then after (Document.Token.hexValue? · |>.isSome) rest
    else if b == 'o' || b == 'O' then after (fun c => '0' ≤ c && c ≤ '7') rest
    else if b == 'b' || b == 'B' then after (fun c => c == '0' || c == '1') rest
    else none
  | _ => none

/-- What follows the digits of a fraction. -/
def skipFraction (cs : List Char) : List Char :=
  match digitsOf? Char.isDigit cs with
  | some (_, r) => r
  | none => cs

/-- The number without a base of its own that begins a text: whether it is imaginary, and the
rest. A whole number does not begin with a zero, unless it is zero. -/
def plainNumber? (cs : List Char) : Option (Bool × List Char) :=
  let (whole, r) := (digitsOf? Char.isDigit cs).getD ([], cs)
  let (isPointed, r) := match r with
    | '.' :: r => (true, skipFraction r)
    | r => (false, r)
  let s := skipExponent r
  let isImaginary := s.head? = some 'j' || s.head? = some 'J'
  let isWhole := !isPointed && s.length = r.length && !isImaginary
  if isWhole && whole.head? = some '0' && whole.any (fun c => c != '0' && c != '_') then none
  else some (isImaginary, if isImaginary then s.drop 1 else s)

/-- The number that begins a text, and the rest. -/
def number? (cs : List Char) : Option (Token × List Char) := do
  let (isImaginary, rest) ← match basedNumber? cs with
    | some rest => some (false, rest)
    | none => plainNumber? cs
  if endsNumber rest then some (.number isImaginary, rest) else none

/-! ## Strings -/

/-- The expressions in the content of a string with these marks, if they admit it. -/
def contentSlots? (marks : StringMarks) (content : List Char) : Option (List String) :=
  if marks.isFormat then
    (slots? marks.isRaw content).map (·.map String.ofList)
  else if (marks.isRaw || escapesOk marks.isBytes content)
      && (!marks.isBytes || content.all (·.toNat < 0x80)) then some []
  else none

/-- The string that begins a text with its quote, and the rest. -/
def stringToken? (marks : StringMarks) (cs : List Char) : Option (Token × List Char) := do
  let (content, rest) ← string? cs
  let slots ← contentSlots? marks content
  some (.string marks.isBytes slots, rest)

/-! ## Lines -/

/-- An indentation, measured with tabs of eight columns and with tabs of one. -/
structure Column where
  wide : Nat := 0
  narrow : Nat := 0
deriving Repr, DecidableEq, Inhabited

/-- The indentation of a line, and the rest of the line. -/
def indentation (column : Column) : List Char → Column × List Char
  | ' ' :: cs => indentation ⟨column.wide + 1, column.narrow + 1⟩ cs
  | '\t' :: cs => indentation ⟨(column.wide / 8 + 1) * 8, column.narrow + 1⟩ cs
  | '\x0c' :: cs => indentation {} cs
  | cs => (column, cs)

/-- The tokens for the step from the open indentations to a new one, and the indentations
that are then open. Columns have to agree in both measures. -/
def reindent? (column : Column) : List Column → Option (List Token × List Column)
  | [] => if column.wide = 0 then some ([], []) else some ([.indent], [column])
  | top :: below =>
    if column.wide = top.wide then
      if column.narrow = top.narrow then some ([], top :: below) else none
    else if top.wide < column.wide then
      if top.narrow < column.narrow then some ([.indent], column :: top :: below) else none
    else
      match below, column.wide with
      | [], 0 => some ([.dedent], [])
      | [], _ + 1 => none
      | next :: _, _ =>
        if next.wide < column.wide then none
        else (reindent? column below).map fun (ts, open') => (.dedent :: ts, open')

/-- The bracket that closes a bracket. -/
def closing? : String → Option String
  | "(" => some ")"
  | "[" => some "]"
  | "\x7b" => some "\x7d"
  | _ => none

/-- Closes a bracket. -/
def isClosing (o : String) : Bool :=
  o == ")" || o == "]" || o == "\x7d"

/-- The brackets that are open after an operator; `none` if it closes what is not open. -/
def bracketsAfter? (o : String) (brackets : List String) : Option (List String) :=
  match closing? o with
  | some c => some (c :: brackets)
  | none =>
    if isClosing o then
      match brackets with
      | c :: rest => if c = o then some rest else none
      | [] => none
    else some brackets

/-- The token that begins a text within a line, and the rest. -/
def token? (cs : List Char) : Option (Token × List Char) :=
  match cs with
  | [] => none
  | c :: rest =>
    if c.isDigit || (c == '.' && (rest.head?.any Char.isDigit)) then
      number? cs
    else if c == '"' || c == '\'' then stringToken? ⟨false, false, false⟩ cs
    else if isWordChar c then
      let word := cs.takeWhile isWordChar
      let after := cs.drop word.length
      let quoted := after.head? = some '"' || after.head? = some '\''
      match (if quoted then marksOf? word else none) with
      | some marks => stringToken? marks after
      | none => if Text.isIdentifierChars word then some (.name (String.ofList word), after) else none
    else (operator? cs).map fun (o, r) => (.op o, r)

/-- Where the reading of a text stands. -/
structure Reading where
  /-- The closing brackets that are due. -/
  brackets : List String := []
  columns : List Column := []
  /-- A logical line begins here. -/
  atStart : Bool := true

/-- The tokens from some place on. The fuel bounds the number of steps. -/
def tokensFrom? : Nat → Reading → List Char → Option (List Token)
  | 0, _, _ => none
  | fuel + 1, r, cs =>
    if r.atStart then
      let (column, line) := indentation {} cs
      match line with
      | [] => some (r.columns.map fun _ => .dedent)
      | '\n' :: rest => tokensFrom? fuel r rest
      | '#' :: rest => tokensFrom? fuel r (rest.dropWhile (· != '\n'))
      | _ => do
        let (steps, columns) ← reindent? column r.columns
        let more ← tokensFrom? fuel { r with columns, atStart := false } line
        some (steps ++ more)
    else
      match cs with
      | [] =>
        if r.brackets.isEmpty then
          (tokensFrom? fuel { r with atStart := true } []).map (.newline :: ·)
        else none
      | ' ' :: rest | '\t' :: rest | '\x0c' :: rest => tokensFrom? fuel r rest
      | '#' :: rest => tokensFrom? fuel r (rest.dropWhile (· != '\n'))
      | '\\' :: '\n' :: rest => if rest.isEmpty then none else tokensFrom? fuel r rest
      | '\n' :: rest =>
        if r.brackets.isEmpty then
          (tokensFrom? fuel { r with atStart := true } rest).map (.newline :: ·)
        else tokensFrom? fuel r rest
      | _ => do
        let (t, rest) ← token? cs
        let brackets ← match t with
          | .op o => bracketsAfter? o r.brackets
          | _ => some r.brackets
        let more ← tokensFrom? fuel { r with brackets } rest
        some (t :: more)

/-- The tokens of a text, if it is made of tokens. -/
def tokens? (text : String) : Option (List Token) :=
  let cs := (unixLines text).toList
  tokensFrom? (2 * cs.length + 3) {} cs

end ClientGen.Source
