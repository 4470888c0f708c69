import ClientGen.Source.Expression

/-!
# Patterns

What a value is compared with in the cases of a `match` statement: literals, names to be bound,
sequences, mappings and objects with parts.

Main definition: `Source.casePattern`.
-/

namespace ClientGen.Source

open Scan

/-! ## Names and numbers -/

/-- The next token makes more than a name of the name before it. -/
def extendsName : Scan Bool := do
  match ← peek? with
  | some (.op o) => return o == "." || o == "(" || o == "="
  | _ => return false

/-- A name that the pattern binds. -/
def capture : Scan Unit := do
  if ← acceptWord "_" then failure
  identifier
  if ← extendsName then failure

/-- What follows an asterisk: a name, or the wildcard. -/
def starredCapture : Scan Unit := do
  if ← acceptWord "_" then pure () else capture

/-- The attributes of a name that has been taken, if there are any. -/
def acceptAttributes : Scan Bool := do
  if ← acceptOp "." then
    dottedName
    return true
  else return false

/-- A number, with its sign if it may have one; whether it is imaginary. -/
def signedNumber : Scan Bool := do
  let _ ← acceptOp "-"
  match ← next with
  | .number isImaginary => return isImaginary
  | _ => failure

/-- A number, or the sum of a real and an imaginary one. -/
def numberPattern : Scan Unit := do
  let isImaginary ← signedNumber
  if ← acceptOneOf ["+", "-"] then
    match ← next with
    | .number true => if isImaginary then failure
    | _ => failure

/-- A number, a string or a constant, if one comes next. -/
def acceptLiteral : Scan Bool := do
  match ← peek? with
  | some (.number _) | some (.op "-") =>
    numberPattern
    return true
  | some (.string isBytes _) =>
    let _ ← stringsAfter isBytes
    return true
  | some (.name w) =>
    if w == "None" || w == "True" || w == "False" then acceptWord w else return false
  | _ => return false

/-! ## Patterns with parts -/

/-- A pattern, or what is left of a sequence; whether it has an asterisk. -/
def sequenceItem (self : Goals) : Scan Bool := do
  if ← acceptOp "*" then
    starredCapture
    return true
  else
    let _ ← self .pattern
    return false

/-- What follows an opening parenthesis that begins a pattern. -/
def groupAfter (self : Goals) : Scan Unit := do
  if ← acceptOp ")" then pure ()
  else
    openRow (sequenceItem self) closes
    expect (.op ")")

/-- What follows an opening bracket. -/
def sequenceAfter (self : Goals) : Scan Unit := do
  if ← acceptOp "]" then pure ()
  else
    let _ ← row (sequenceItem self) (comma closes)
    expect (.op "]")

/-- An entry of a mapping; whether it is for all other entries. -/
def mappingItem (self : Goals) : Scan Bool := do
  if ← acceptOp "**" then
    capture
    return true
  if !(← acceptLiteral) then
    identifier
    if !(← acceptAttributes) then failure
  expect (.op ":")
  let _ ← self .pattern
  return false

/-- What follows an opening brace. The entry for all others comes last. -/
def mappingAfter (self : Goals) : Scan Unit := do
  if ← acceptOp "\x7d" then pure ()
  else
    let areForOthers ← row (mappingItem self) (comma closes)
    if areForOthers.dropLast.any id then failure
    expect (.op "\x7d")

/-- A pattern for a part of an object, and the keyword that names the part. -/
def partItem (self : Goals) : Scan (Option String) := do
  match ← peek?, ← peekSecond? with
  | some (.name w), some (.op "=") =>
    identifier
    expect (.op "=")
    let _ ← self .pattern
    return some w
  | _, _ =>
    let _ ← self .pattern
    return none

/-- Parts with keywords come last. Right behind one without, `_` is the wildcard and no
keyword. -/
def partsOk (keywords : List (Option String)) : Bool :=
  let named := keywords.dropWhile (·.isNone)
  named.all (·.isSome) && (named.length = keywords.length || named.head? ≠ some (some "_"))

/-- What follows the parenthesis after the name of a class. -/
def partsAfter (self : Goals) : Scan Unit := do
  if ← acceptOp ")" then pure ()
  else
    let keywords ← row (partItem self) (comma closes)
    if !partsOk keywords then failure
    expect (.op ")")

/-- A pattern that is no alternative of others. -/
def closedPattern (self : Goals) : Scan Unit := do
  if ← acceptLiteral then pure ()
  else if ← acceptWord "_" then pure ()
  else if ← acceptOp "(" then groupAfter self
  else if ← acceptOp "[" then sequenceAfter self
  else if ← acceptOp "\x7b" then mappingAfter self
  else
    identifier
    let _ ← acceptAttributes
    if ← acceptOp "(" then partsAfter self

/-- Patterns of which one has to fit, and a name for what fits. -/
def pattern (self : Goals) : Scan Unit := do
  let _ ← row (closedPattern self) (acceptOp "|")
  if ← acceptWord "as" then capture

/-- The pattern of a case: a pattern, or a sequence without brackets. -/
def casePattern (self : Goals) : Scan Unit :=
  openRow (sequenceItem self) fun t => t == .op ":" || t == .name "if"

end ClientGen.Source
