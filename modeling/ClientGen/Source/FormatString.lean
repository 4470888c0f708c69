import ClientGen.Source.StringText

/-!
# Format strings

In a format string, braces enclose slots. A slot has an expression, after which there may be an
equals sign, a conversion and a format, and a format may have slots of its own. Outside the
slots a brace is written twice.

Main definition: `Source.slots?`.
-/

namespace ClientGen.Source

/-- Where the reading of an expression in a slot stands. -/
structure SlotReading where
  /-- What ends the string that is open: one or three of a quote. -/
  quote : Option (Char × Bool) := none
  /-- The closing brackets that are due. -/
  brackets : List Char := []
  /-- How many characters belong to what has been read. -/
  skip : Nat := 0

namespace SlotReading

/-- The reading after a character that does not end the expression, if it may stand there. -/
def after? (r : SlotReading) (c : Char) (rest : List Char) : Option SlotReading :=
  let isTriple := rest.take 2 == [c, c]
  let skip := if isTriple then 2 else 0
  if c == '\\' then none
  else
    match r.quote with
    | some (q, needsThree) =>
      if c != q || (needsThree && !isTriple) then some r
      else some { r with quote := none, skip := if needsThree then 2 else 0 }
    | none =>
      if c == '"' || c == '\'' then some { r with quote := some (c, isTriple), skip }
      else if c == '#' then none
      else if c == '(' then some { r with brackets := ')' :: r.brackets }
      else if c == '[' then some { r with brackets := ']' :: r.brackets }
      else if c == '\x7b' then some { r with brackets := '\x7d' :: r.brackets }
      else if c == ')' || c == ']' || c == '\x7d' then
        match r.brackets with
        | due :: brackets => if due = c then some { r with brackets } else none
        | [] => none
      else some r

/-- The character ends the expression. A comparison that is written with an equals sign does
not. -/
def isEnd (r : SlotReading) (c : Char) (rest : List Char) : Bool :=
  r.quote.isNone && r.brackets.isEmpty
    && (c == '\x7d' || c == ':' || ((c == '!' || c == '=') && rest.head? != some '='))

/-- The two characters are one comparison. -/
def isComparison (r : SlotReading) (c : Char) (rest : List Char) : Bool :=
  r.quote.isNone && r.brackets.isEmpty && rest.head? == some '='
    && (c == '!' || c == '=' || c == '<' || c == '>')

end SlotReading

/-- The expression in a slot, and the rest from the character that ends it. -/
def slotExpression? (r : SlotReading) : List Char → Option (List Char × List Char)
  | [] => none
  | c :: cs => do
    if 0 < r.skip then
      let (e, rest) ← slotExpression? { r with skip := r.skip - 1 } cs
      some (c :: e, rest)
    else if r.isEnd c cs then some ([], c :: cs)
    else
      let next ← if r.isComparison c cs then some { r with skip := 1 } else r.after? c cs
      let (e, rest) ← slotExpression? next cs
      some (c :: e, rest)

/-- A blank between tokens, or a line end. -/
def isGap (c : Char) : Bool :=
  c == ' ' || c == '\t' || c == '\n' || c == '\x0b' || c == '\x0c'

/-- What follows the equals sign of a slot, if there is one. -/
def skipEquals : List Char → List Char
  | '=' :: cs => cs.dropWhile isGap
  | cs => cs

/-- What follows the conversion of a slot, if there is one. -/
def skipConversion? : List Char → Option (List Char)
  | '!' :: c :: cs =>
    if (c == 's' || c == 'r' || c == 'a') && (cs.head? == some ':' || cs.head? == some '\x7d') then
      some cs
    else none
  | '!' :: [] => none
  | cs => some cs

/-- The expressions in the slots of a text, and the rest from the brace that ends it. The
depth tells a format string from a format in a slot and from a format in a slot of that. The
fuel bounds the number of steps. -/
def slotsFrom? (isRaw : Bool) : Nat → Nat → List Char → Option (List (List Char) × List Char)
  | 0, _, _ => none
  | fuel + 1, depth, cs =>
    match cs with
    | [] => if depth = 0 then some ([], []) else none
    | '\x7b' :: rest => do
      if depth = 0 && rest.head? == some '\x7b' then slotsFrom? isRaw fuel depth (rest.drop 1)
      else if 2 ≤ depth then none
      else
        let (e, rest) ← slotExpression? {} rest
        if e.all fun c => isGap c && c != '\x0b' then none
        let rest ← skipConversion? (skipEquals rest)
        let (inner, rest) ← match rest with
          | ':' :: spec => slotsFrom? isRaw fuel (depth + 1) spec
          | rest => some ([], rest)
        match rest with
        | '\x7d' :: rest =>
          let (more, rest) ← slotsFrom? isRaw fuel depth rest
          some (e :: inner ++ more, rest)
        | _ => none
    | '\x7d' :: rest =>
      if 0 < depth then some ([], cs)
      else if rest.head? == some '\x7d' then slotsFrom? isRaw fuel depth (rest.drop 1)
      else none
    | '\\' :: rest =>
      if isRaw then slotsFrom? isRaw fuel depth rest
      else if !escapeOk false rest then none
      else
        match rest with
        | 'N' :: name => slotsFrom? isRaw fuel depth ((name.dropWhile (· != '\x7d')).drop 1)
        | c :: after =>
          if c == '\x7b' || c == '\x7d' then slotsFrom? isRaw fuel depth rest
          else slotsFrom? isRaw fuel depth after
        | [] => slotsFrom? isRaw fuel depth []
    | _ :: rest => slotsFrom? isRaw fuel depth rest

/-- The expressions in the slots of the content of a format string, if it is well formed. -/
def slots? (isRaw : Bool) (content : List Char) : Option (List (List Char)) :=
  (slotsFrom? isRaw (content.length + 1) 0 content).map (·.1)

end ClientGen.Source
