import ClientGen.Source.Scan

/-!
# Expressions

Displays, comprehensions, calls, operators and functions without a name, with the rules on the
order of arguments and of parameters.

Main definition: `Source.expression`.
-/

namespace ClientGen.Source

open Scan

/-! ## Parts of expressions -/

/-- An expression, or the assignment of one to a name. -/
def namedExpression (self : Goals) : Scan Shape := do
  match ← peek?, ← peekSecond? with
  | some (.name _), some (.op ":=") =>
    identifier
    expect (.op ":=")
    let _ ← self .expression
    return .value
  | _, _ => self .expression

/-- An item of a display, with whether it has an asterisk. -/
def displayItem (self : Goals) : Scan (Shape × Bool) := do
  if ← acceptOp "*" then return ((← self .operand).starred, true)
  else return (← namedExpression self, false)

/-- The targets of a loop. -/
def targets (self : Goals) : Scan Unit := do
  let item : Scan Shape := do
    let _ ← acceptOp "*"
    self .primary
  let shapes ← row item (comma (· == .name "in"))
  if shapes.all (·.isTarget) then pure () else failure

/-- A loop inside a display comes next. -/
def loopAhead : Scan Bool := do
  match ← peek?, ← peekSecond? with
  | some (.name "for"), _ => return true
  | some (.name "async"), some (.name "for") => return true
  | _, _ => return false

/-- The loops and conditions of a comprehension. -/
def loops (self : Goals) : Scan Unit := do
  let one : Scan Unit := do
    let _ ← acceptWord "async"
    expect (.name "for")
    targets self
    expect (.name "in")
    let _ ← self .disjunction
    repeated do
      if ← acceptWord "if" then
        let _ ← self .disjunction
        return true
      else return false
  let _ ← row one loopAhead

/-- A row of expressions in a statement. -/
def expressionRow (self : Goals) : Scan Shape := do
  let item : Scan (Shape × Bool) := do
    if ← acceptOp "*" then return ((← self .operand).starred, true)
    else return (← self .expression, false)
  let (first, isStarred) ← item
  if ← acceptOp "," then
    let more ← match ← peek? with
      | none => pure []
      | some t => if endsRow t then pure [] else row item (comma endsRow)
    return .row (first :: more.map (·.1))
  else return if isStarred then { first with isDeletable := false } else first

/-- A yield whose keyword has been taken. -/
def yieldAfter (self : Goals) : Scan Shape := do
  if ← acceptWord "from" then
    let _ ← self .expression
    return .value
  match ← peek? with
  | none => return .value
  | some t =>
    if endsRow t then return .value
    let _ ← expressionRow self
    return .value

/-- What may be assigned: a yield or a row of expressions. -/
def assigned (self : Goals) : Scan Shape := do
  if ← acceptWord "yield" then yieldAfter self else expressionRow self

/-! ## Displays -/

/-- What follows an opening parenthesis that begins an atom. -/
def parenthesisedAfter (self : Goals) : Scan Shape := do
  if ← acceptOp ")" then return .row []
  if ← acceptWord "yield" then
    let shape ← yieldAfter self
    expect (.op ")")
    return shape
  let (first, isStarred) ← displayItem self
  if ← loopAhead then
    if isStarred then failure
    loops self
    expect (.op ")")
    return .value
  if ← acceptOp "," then
    let more ← if (← peek?).any closes then pure [] else row (displayItem self) (comma closes)
    expect (.op ")")
    return .row (first :: more.map (·.1))
  expect (.op ")")
  if isStarred then failure else return first

/-- What follows an opening bracket that begins an atom. -/
def listAfter (self : Goals) : Scan Shape := do
  if ← acceptOp "]" then return .row []
  let (first, isStarred) ← displayItem self
  if ← loopAhead then
    if isStarred then failure
    loops self
    expect (.op "]")
    return .value
  let more ← if ← comma closes then row (displayItem self) (comma closes) else pure []
  expect (.op "]")
  return .row (first :: more.map (·.1))

/-- An entry of a dictionary. -/
def dictionaryEntry (self : Goals) : Scan Unit := do
  if ← acceptOp "**" then
    let _ ← self .operand
  else
    let _ ← self .expression
    expect (.op ":")
    let _ ← self .expression

/-- What follows an opening brace. -/
def braceAfter (self : Goals) : Scan Shape := do
  if ← acceptOp "\x7d" then return .value
  let moreEntries : Scan Unit := do
    if ← comma closes then
      let _ ← row (dictionaryEntry self) (comma closes)
  if ← acceptOp "**" then
    let _ ← self .operand
    moreEntries
  else
    let (_, isStarred) ← displayItem self
    if !isStarred && (← acceptOp ":") then
      let _ ← self .expression
      if ← loopAhead then loops self else moreEntries
    else if ← loopAhead then
      if isStarred then failure
      loops self
    else if ← comma closes then
      let _ ← row (displayItem self) (comma closes)
  expect (.op "\x7d")
  return .value

/-- Strings in a row, the first of which has been taken; they are all bytes or all not. -/
def stringsAfter (isBytes : Bool) : Scan Shape := do
  repeated do
    match ← peek? with
    | some (.string other _) =>
      if other != isBytes then failure
      let _ ← next
      return true
    | _ => return false
  return .value

/-- An atom. -/
def atom (self : Goals) : Scan Shape := do
  match ← next with
  | .name w =>
    if w == "None" || w == "True" || w == "False" then return .value
    else if Naming.keywords.contains w then failure
    else return .place
  | .number _ => return .value
  | .string isBytes _ => stringsAfter isBytes
  | .op "..." => return .value
  | .op "(" => parenthesisedAfter self
  | .op "[" => listAfter self
  | .op "\x7b" => braceAfter self
  | _ => failure

/-! ## Calls and items -/

/-- How far a list of arguments has come: keywords end the positional ones, and a mapping
ends the sequences. -/
inductive ArgumentPhase where
  | positional
  | keywords
  | mappings
deriving DecidableEq

/-- An argument; the phase after it, and whether it is a bare generator. -/
def argument (self : Goals) (phase : ArgumentPhase) : Scan (ArgumentPhase × Bool) := do
  if ← acceptOp "**" then
    let _ ← self .expression
    return (.mappings, false)
  if ← acceptOp "*" then
    let _ ← self .expression
    if phase = .mappings then failure else return (phase, false)
  match ← peek?, ← peekSecond? with
  | some (.name _), some (.op "=") =>
    identifier
    expect (.op "=")
    let _ ← self .expression
    return (if phase = .mappings then .mappings else .keywords, false)
  | _, _ =>
    let _ ← namedExpression self
    if phase ≠ .positional then failure
    if ← loopAhead then
      loops self
      return (phase, true)
    return (phase, false)

private def argumentsWithin (self : Goals) : Nat → ArgumentPhase → Bool → Scan Unit
  | 0, _, _ => failure
  | fuel + 1, phase, isFirst => do
    let (phase, isGenerator) ← argument self phase
    if isGenerator then
      if isFirst then expect (.op ")") else failure
    else if ← comma closes then argumentsWithin self fuel phase false
    else expect (.op ")")

/-- The arguments of a call whose parenthesis has been taken, with the closing one. -/
def argumentsAfter (self : Goals) : Scan Unit := do
  if ← acceptOp ")" then pure ()
  else fun ts => argumentsWithin self (ts.length + 1) .positional true ts

/-- An expression where one may be missing. -/
def optionalExpression (self : Goals) : Scan Unit := do
  match ← peek? with
  | some (.op o) =>
    if o == ":" || o == "," || o == "]" then pure ()
    else
      let _ ← self .expression
  | _ =>
    let _ ← self .expression

/-- An index, or a range of indices. -/
def slice (self : Goals) : Scan Unit := do
  let afterColon : Scan Unit := do
    optionalExpression self
    if ← acceptOp ":" then optionalExpression self
  if ← acceptOp "*" then
    let _ ← self .expression
  else if ← acceptOp ":" then afterColon
  else
    let _ ← namedExpression self
    if ← acceptOp ":" then afterColon

/-- What follows the bracket of an item, with the closing one. -/
def slicesAfter (self : Goals) : Scan Unit := do
  let _ ← row (slice self) (comma closes)
  expect (.op "]")

private def trailersWithin (self : Goals) : Nat → Shape → Scan Shape
  | 0, _ => failure
  | fuel + 1, shape => do
    if ← acceptOp "." then
      identifier
      trailersWithin self fuel .place
    else if ← acceptOp "(" then
      argumentsAfter self
      trailersWithin self fuel .value
    else if ← acceptOp "[" then
      slicesAfter self
      trailersWithin self fuel .place
    else return shape

/-- An atom with its attributes, calls and items. -/
def primary (self : Goals) : Scan Shape := do
  let shape ← atom self
  fun ts => trailersWithin self (ts.length + 1) shape ts

/-! ## Operators -/

/-- A primary with signs, and its power. -/
def factor (self : Goals) : Scan Shape := do
  if ← acceptOneOf ["+", "-", "~"] then
    let _ ← self .factor
    return .value
  let isAwaited ← acceptWord "await"
  let shape ← self .primary
  if ← acceptOp "**" then
    let _ ← self .factor
    return .value
  return if isAwaited then .value else shape

/-- Factors with arithmetic operators between them. -/
def operand (self : Goals) : Scan Shape := do
  let shapes ← row (self .factor)
    (acceptOneOf ["|", "^", "&", "<<", ">>", "+", "-", "*", "/", "//", "%", "@"])
  match shapes with
  | [shape] => return shape
  | _ => return .value

/-- An operator of comparison, if one comes next. -/
def acceptComparison : Scan Bool := do
  if ← acceptOneOf ["==", "!=", "<=", "<", ">=", ">"] then return true
  if ← acceptWord "in" then return true
  if ← acceptWord "is" then
    let _ ← acceptWord "not"
    return true
  match ← peek?, ← peekSecond? with
  | some (.name "not"), some (.name "in") =>
    let _ ← next
    let _ ← next
    return true
  | _, _ => return false

/-- A comparison, or the negation of one. -/
def inversion (self : Goals) : Scan Shape := do
  if ← acceptWord "not" then
    let _ ← self .inversion
    return .value
  match ← row (self .operand) acceptComparison with
  | [shape] => return shape
  | _ => return .value

/-- Comparisons joined by `and` and `or`. -/
def disjunction (self : Goals) : Scan Shape := do
  let joint : Scan Bool := do
    if ← acceptWord "and" then return true else acceptWord "or"
  match ← row (self .inversion) joint with
  | [shape] => return shape
  | _ => return .value

/-! ## Parameters -/

/-- How far a list of parameters has come. -/
structure ParameterState where
  hasDefault : Bool := false
  hasSlash : Bool := false
  hasStar : Bool := false
  /-- A bare asterisk waits for a parameter after it. -/
  isWaiting : Bool := false
  isFirst : Bool := true
  /-- Parameters for keywords come last. -/
  isLast : Bool := false

/-- A parameter; `hint` reads what may follow its name. -/
def parameter (self : Goals) (hint : Scan Unit) (st : ParameterState) :
    Scan ParameterState := do
  if st.isLast then failure
  if ← acceptOp "/" then
    if st.isFirst || st.hasSlash || st.hasStar then failure
    return { st with hasSlash := true }
  if ← acceptOp "**" then
    identifier
    hint
    if st.isWaiting then failure
    return { st with isLast := true }
  if ← acceptOp "*" then
    if st.hasStar then failure
    match ← peek? with
    | some (.op ",") => return { st with hasStar := true, isWaiting := true, isFirst := false }
    | _ =>
      identifier
      hint
      return { st with hasStar := true, isFirst := false }
  identifier
  hint
  if ← acceptOp "=" then
    let _ ← self .expression
    return { st with hasDefault := st.hasDefault || !st.hasStar, isWaiting := false, isFirst := false }
  if st.hasDefault && !st.hasStar then failure
  return { st with isWaiting := false, isFirst := false }

private def parametersWithin (self : Goals) (hint : Scan Unit) (close : Token) :
    Nat → ParameterState → Scan Unit
  | 0, _ => failure
  | fuel + 1, st => do
    let st ← parameter self hint st
    if ← comma (· == close) then parametersWithin self hint close fuel st
    else if st.isWaiting then failure
    else expect close

/-- Parameters up to a closing token, which is taken. -/
def parametersAfter (self : Goals) (hint : Scan Unit) (close : Token) : Scan Unit := do
  if ← accept close then pure ()
  else fun ts => parametersWithin self hint close (ts.length + 1) {} ts

/-- An expression. -/
def expression (self : Goals) : Scan Shape := do
  if ← acceptWord "lambda" then
    parametersAfter self (pure ()) (.op ":")
    let _ ← self .expression
    return .value
  let shape ← self .disjunction
  if ← acceptWord "if" then
    let _ ← self .disjunction
    expect (.name "else")
    let _ ← self .expression
    return .value
  return shape

end ClientGen.Source
