import ClientGen.Text.Quoted
import ClientGen.Text.Split

/-!
# The words of a command line

The options that the command knows and the way they are written: `--output out`,
`--output=out`, `-o out`, `-oout`, and several short flags in one word. After the word `--`
nothing is an option.

Main definition: `Command.readWords`, the options in the order in which they are given.
-/

namespace ClientGen.Command

/-! ## Options -/

/-- An option of the command. -/
inductive Setting where
  | schema
  | output
  | operations
  | packageName
  | maxDepth
  | shortNames
  | skipEntities
  | noDataTypes
  | includeQuery
  | includeMutation
  | includeSubscription
  | includeField
  | excludeField
  | excludeType
  | typeMapping
  | templateDirectory
  | header
  | verbose
deriving Repr, DecidableEq, Inhabited

namespace Setting

/-- All options, in the order in which they are looked at if they are not given. -/
def all : List Setting :=
  [.schema, .output, .operations, .packageName, .maxDepth, .shortNames, .skipEntities,
   .noDataTypes, .includeQuery, .includeMutation, .includeSubscription, .includeField,
   .excludeField, .excludeType, .typeMapping, .templateDirectory, .header, .verbose]

/-- The long name of an option. -/
def name : Setting → String
  | .schema => "--schema"
  | .output => "--output"
  | .operations => "--operations"
  | .packageName => "--package-name"
  | .maxDepth => "--max-projection-depth"
  | .shortNames => "--short-projection-names"
  | .skipEntities => "--skip-entity-queries"
  | .noDataTypes => "--no-data-types"
  | .includeQuery => "--include-query"
  | .includeMutation => "--include-mutation"
  | .includeSubscription => "--include-subscription"
  | .includeField => "--include-field"
  | .excludeField => "--exclude-field"
  | .excludeType => "--exclude-type"
  | .typeMapping => "--type-mapping"
  | .templateDirectory => "--template-dir"
  | .header => "--header"
  | .verbose => "--verbose"

/-- The option's letter, if it has one. -/
def letter? : Setting → Option Char
  | .schema => some 's'
  | .output => some 'o'
  | .verbose => some 'v'
  | _ => none

/-- The option stands by itself; the others have a value. -/
def isFlag : Setting → Bool
  | .shortNames | .skipEntities | .noDataTypes | .verbose => true
  | _ => false

/-- The option with a long name. -/
def ofName? (name : String) : Option Setting :=
  all.find? (·.name = name)

/-- The option with a letter. -/
def ofLetter? (c : Char) : Option Setting :=
  all.find? (·.letter? = some c)

end Setting

/-- An option that is given, with its value; a flag has the empty one. -/
structure Given where
  setting : Setting
  value : String := ""
deriving Repr, DecidableEq

/-! ## Refusals -/

/-- Why words are no command line. -/
inductive WordError where
  | unknownCommand (name : String)
  | unknownOption (name : String)
  | missingValue (name : String)
  | unwantedValue (name : String)
  /-- Words that are neither options nor values of options. -/
  | leftOver (words : List String)
deriving Repr, DecidableEq

/-- The wording of a refusal. -/
def WordError.message : WordError → String
  | .unknownCommand name => s!"No such command {Text.quoted name}."
  | .unknownOption name => s!"No such option: {name}"
  | .missingValue name => s!"Option {Text.quoted name} requires an argument."
  | .unwantedValue name => s!"Option {Text.quoted name} does not take a value."
  | .leftOver words =>
    let plural := if words.length = 1 then "" else "s"
    let row := " ".intercalate words
    s!"Got unexpected extra argument{plural} ({row})"

/-! ## Reading -/

/-- What a word says by itself. -/
inductive Word where
  /-- No option. -/
  | plain
  /-- Nothing behind it is an option. -/
  | terminator
  /-- Options, the last of which may wait for its value. -/
  | options (given : List Given) (waiting? : Option (Setting × String))
deriving Repr, DecidableEq

/-- Reads the letters of a word: flags, and then an option whose value is the rest of the word
or, if there is no rest, the next word. -/
def readLetters (flags : List Given) : List Char → Except WordError Word
  | [] => .ok (.options flags none)
  | c :: cs =>
    let name := String.ofList ['-', c]
    match Setting.ofLetter? c with
    | none => .error (.unknownOption name)
    | some s =>
      if s.isFlag then readLetters (flags ++ [⟨s, ""⟩]) cs
      else if cs.isEmpty then .ok (.options flags (some (s, name)))
      else .ok (.options (flags ++ [⟨s, String.ofList cs⟩]) none)

/-- Reads a word with a long name, and maybe a value behind the first equals sign. -/
def readLong (word : String) : Except WordError Word :=
  let (name, value?) := match Text.cutFirst? '=' word.toList with
    | some (name, value) => (String.ofList name, some (String.ofList value))
    | none => (word, none)
  match Setting.ofName? name, value? with
  | none, _ => .error (.unknownOption name)
  | some s, some value =>
    if s.isFlag then .error (.unwantedValue name) else .ok (.options [⟨s, value⟩] none)
  | some s, none =>
    if s.isFlag then .ok (.options [⟨s, ""⟩] none) else .ok (.options [] (some (s, name)))

/-- Reads a word. -/
def readWord (word : String) : Except WordError Word :=
  match word.toList with
  | ['-', '-'] => .ok .terminator
  | '-' :: '-' :: _ => readLong word
  | '-' :: c :: cs => readLetters [] (c :: cs)
  | _ => .ok .plain

/-- The options that words give, in order, and the words that are left over. -/
def readWords : List String → Except WordError (List Given × List String)
  | [] => .ok ([], [])
  | word :: rest => do
    match ← readWord word with
    | .plain =>
      let (given, left) ← readWords rest
      return (given, word :: left)
    | .terminator => return ([], rest)
    | .options here none =>
      let (given, left) ← readWords rest
      return (here ++ given, left)
    | .options here (some (s, name)) =>
      match rest with
      | [] => throw (.missingValue name)
      | value :: rest =>
        let (given, left) ← readWords rest
        return (here ++ ⟨s, value⟩ :: given, left)

end ClientGen.Command
