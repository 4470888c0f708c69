import ClientGen.Source.Expression
import ClientGen.Source.Pattern

/-!
# Statements

Simple statements, with the rules on what may stand to the left of an assignment, and those
with blocks.

Main definition: `Source.statement`.
-/

namespace ClientGen.Source

open Scan

/-! ## Simple statements -/

/-- A new name for what is imported. -/
def asName : Scan Unit := do
  if ← acceptWord "as" then identifier

/-- An import whose keyword has been taken. -/
def importAfter : Scan Unit := do
  let one : Scan Unit := do
    dottedName
    asName
  let _ ← row one (acceptOp ",")

/-- An import from a module whose keyword has been taken. -/
def fromAfter : Scan Unit := do
  let dots ← fun ts =>
    let rest := ts.dropWhile fun t => t == .op "." || t == .op "..."
    some (ts.length - rest.length, rest)
  if dots = 0 || (← peek?) ≠ some (.name "import") then dottedName
  expect (.name "import")
  let one : Scan Unit := do
    identifier
    asName
  if ← acceptOp "*" then pure ()
  else if ← acceptOp "(" then
    let _ ← row one (comma closes)
    expect (.op ")")
  else
    let _ ← row one (acceptOp ",")

/-- Names with commas between them. -/
def nameRow : Scan Unit := do
  let _ ← row identifier (acceptOp ",")

/-- What is deleted. -/
def deletionAfter (self : Goals) : Scan Unit := do
  let shapes ← row (self .primary) (comma endsRow)
  if shapes.all (·.isDeletable) then pure () else failure

def assignmentsWithin (self : Goals) : Nat → Shape → Scan Unit
  | 0, _ => failure
  | fuel + 1, shape => do
    if ← acceptOp "=" then
      if !shape.isTarget then failure
      let next ← assigned self
      assignmentsWithin self fuel next
    else pure ()

/-- An expression by itself, or an assignment. -/
def expressionStatement (self : Goals) : Scan Unit := do
  let shape ← assigned self
  if ← acceptOp ":" then
    if !shape.isSingle then failure
    let _ ← self .expression
    if ← acceptOp "=" then
      let _ ← assigned self
  else if ← acceptOneOf augmented then
    if !shape.isSingle then failure
    let _ ← assigned self
  else fun ts => assignmentsWithin self (ts.length + 1) shape ts

/-- A statement without a block. -/
def simpleStatement (self : Goals) : Scan Unit := do
  let isKeyword (w : String) : Scan Bool := acceptWord w
  if ← isKeyword "pass" then pure ()
  else if ← isKeyword "break" then pure ()
  else if ← isKeyword "continue" then pure ()
  else if ← isKeyword "import" then importAfter
  else if ← isKeyword "from" then fromAfter
  else if ← isKeyword "global" then nameRow
  else if ← isKeyword "nonlocal" then nameRow
  else if ← isKeyword "del" then deletionAfter self
  else if ← isKeyword "assert" then
    let _ ← row (self .expression) (acceptOp ",")
  else if ← isKeyword "return" then
    if (← peek?).any endsRow then pure ()
    else
      let _ ← expressionRow self
  else if ← isKeyword "raise" then
    if (← peek?).any endsRow then pure ()
    else
      let _ ← self .expression
      if ← acceptWord "from" then
        let _ ← self .expression
  else expressionStatement self

/-- Simple statements on one line. -/
def simpleStatements (self : Goals) : Scan Unit := do
  let more : Scan Bool := do
    if ← acceptOp ";" then return (← peek?) ≠ some .newline else return false
  let _ ← row (simpleStatement self) more
  expect .newline

/-! ## Compound statements -/

/-- A colon and what stands behind it or, indented, below it. -/
def block (self : Goals) : Scan Unit := do
  expect (.op ":")
  if ← accept .newline then
    expect .indent
    let _ ← row (self .statement) (do return (← peek?) ≠ some .dedent)
    expect .dedent
  else simpleStatements self

/-- A block for the other case, if there is one. -/
def elseBlock (self : Goals) : Scan Unit := do
  if ← acceptWord "else" then block self

/-- A condition and its block. -/
def conditionBlock (self : Goals) : Scan Unit := do
  let _ ← namedExpression self
  block self

/-- An alternative whose keyword has been taken. -/
def ifAfter (self : Goals) : Scan Unit := do
  let _ ← row (conditionBlock self) (acceptWord "elif")
  elseBlock self

/-- A loop over values whose keyword has been taken. -/
def forAfter (self : Goals) : Scan Unit := do
  targets self
  expect (.name "in")
  let _ ← expressionRow self
  block self
  elseBlock self

/-- A context, and the target that it is bound to. -/
def contextItem (self : Goals) : Scan Unit := do
  let _ ← self .expression
  if ← acceptWord "as" then
    let shape ← self .primary
    if !shape.isTarget then failure

/-- A statement with contexts whose keyword has been taken. The contexts may stand in
parentheses. -/
def withAfter (self : Goals) : Scan Unit := do
  let bare : Scan Unit := do
    let _ ← row (contextItem self) (acceptOp ",")
    block self
  let parenthesised : Scan Unit := do
    expect (.op "(")
    let _ ← row (contextItem self) (comma closes)
    expect (.op ")")
    block self
  parenthesised <|> bare

/-- The handlers of a `try`, of which there is at least one or a final block. -/
def tryAfter (self : Goals) : Scan Unit := do
  block self
  if ← acceptWord "finally" then block self
  else
    let isGroup := (← peekSecond?) == some (.op "*")
    let handler : Scan Unit := do
      expect (.name "except")
      if isGroup then expect (.op "*")
      if (← peek?) ≠ some (.op ":") || isGroup then
        let _ ← self .expression
        asName
      block self
    let _ ← row handler (do return (← peek?) == some (.name "except"))
    elseBlock self
    if ← acceptWord "finally" then block self

/-- A function whose keyword has been taken. -/
def functionAfter (self : Goals) : Scan Unit := do
  let hint : Scan Unit := do
    if ← acceptOp ":" then
      let _ ← self .expression
  identifier
  expect (.op "(")
  parametersAfter self hint (.op ")")
  if ← acceptOp "->" then
    let _ ← self .expression
  block self

/-- A class whose keyword has been taken. -/
def classAfter (self : Goals) : Scan Unit := do
  identifier
  if ← acceptOp "(" then argumentsAfter self
  block self

/-- A function or class after its decorators. -/
def decorated (self : Goals) : Scan Unit := do
  if ← acceptWord "class" then classAfter self
  else
    let _ ← acceptWord "async"
    expect (.name "def")
    functionAfter self

/-- The value of a `match` statement. -/
def subject (self : Goals) : Scan Unit :=
  openRow ((·.2) <$> displayItem self) (· == .op ":")

/-- A case, which may have a condition, and its block. -/
def caseBlock (self : Goals) : Scan Unit := do
  expect (.name "case")
  casePattern self
  if ← acceptWord "if" then
    let _ ← namedExpression self
  block self

/-- A `match` statement. Where its parts do not follow, `match` is a name. -/
def matchStatement (self : Goals) : Scan Unit := do
  expect (.name "match")
  subject self
  expect (.op ":")
  expect .newline
  expect .indent
  let _ ← row (caseBlock self) (do return (← peek?) == some (.name "case"))
  expect .dedent

/-- A statement. -/
def statement (self : Goals) : Scan Unit := do
  if ← acceptWord "if" then ifAfter self
  else if ← acceptWord "while" then
    conditionBlock self
    elseBlock self
  else if ← acceptWord "for" then forAfter self
  else if ← acceptWord "with" then withAfter self
  else if ← acceptWord "try" then tryAfter self
  else if ← acceptWord "def" then functionAfter self
  else if ← acceptWord "class" then classAfter self
  else if ← acceptWord "async" then
    if ← acceptWord "for" then forAfter self
    else if ← acceptWord "with" then withAfter self
    else
      expect (.name "def")
      functionAfter self
  else if ← acceptOp "@" then
    let decorator : Scan Unit := do
      let _ ← namedExpression self
      expect .newline
    let _ ← row decorator (acceptOp "@")
    decorated self
  else if (← peek?) == some (.name "match") then matchStatement self <|> simpleStatements self
  else simpleStatements self

end ClientGen.Source
