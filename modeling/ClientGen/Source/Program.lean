import ClientGen.Source.Statement

/-!
# Well-formed program texts

A text is a Python program if it is made of tokens, these form statements, and the expressions in
the slots of its format strings are well formed too. Only the form counts: names need no
meaning, and a `return` may stand anywhere.

Main definition: `Source.isProgram`.
-/

namespace ClientGen.Source

open Scan

/-- The production of a goal. -/
def production (self : Goals) : Goals
  | .expression => expression self
  | .disjunction => disjunction self
  | .inversion => inversion self
  | .operand => operand self
  | .factor => factor self
  | .primary => primary self
  | .pattern => do
    pattern self
    return .value
  | .statement => do
    statement self
    return .value

/-- Reaches a goal, with goals nested up to the fuel. -/
def scan : Nat → Goals
  | 0, _ => failure
  | fuel + 1, goal => production (scan fuel) goal

/-- How deeply goals may be nested in a row of tokens. -/
def depthOf (tokens : List Token) : Nat :=
  8 * tokens.length + 8

/-- The tokens are those of any number of statements. -/
def areStatements (tokens : List Token) : Bool :=
  let one : Scan Bool := do
    if (← peek?).isNone then return false
    let _ ← scan (depthOf tokens) .statement
    return true
  (repeated one tokens).isSome

/-- The tokens are those of one atom on a line. -/
def areAtom (tokens : List Token) : Bool :=
  let one : Scan Unit := do
    let _ ← atom (scan (depthOf tokens))
    expect .newline
  (one tokens).isSome

/-- The expressions in the slots of a token. -/
def Token.slots : Token → List String
  | .string _ slots => slots
  | _ => []

/-- The text is made of tokens of the given form, and its slots hold expressions. The fuel
bounds how deeply format strings are nested. -/
def isText : Nat → (List Token → Bool) → String → Bool
  | 0, _, _ => false
  | fuel + 1, hasForm, text =>
    (tokens? text).any fun tokens =>
      hasForm tokens && tokens.all fun t => t.slots.all fun e => isText fuel areAtom s!"({e})"

/-- The text is a well-formed program. -/
def isProgram (text : String) : Bool :=
  isText (text.length + 1) areStatements text

end ClientGen.Source
