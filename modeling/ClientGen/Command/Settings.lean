import ClientGen.Command.Words
import ClientGen.Files
import ClientGen.Number.Decimal
import ClientGen.Scalars
import ClientGen.Text.Blank

/-!
# Settings of the command

What the options of a command line set, once their values have been looked at. The options
that are given are looked at first, in the order in which they first appear, then the others;
the configuration as a whole comes last. The first thing that is wrong is the one that is
reported.

Main definition: `Settings.ofWords`.
-/

namespace ClientGen.Command

/-! ## Refusals -/

/-- The kind of thing that a path should lead to. -/
inductive PathKind where
  | any
  | file
  | directory
deriving Repr, DecidableEq

/-- How the wording of a refusal names a kind of path. -/
def PathKind.title : PathKind → String
  | .any => "Path"
  | .file => "File"
  | .directory => "Directory"

/-- What is wrong with the value of an option. -/
inductive ValueError where
  | noSuchPath (kind : PathKind) (path : String)
  /-- The path leads to a directory, not to a file, or the other way round. -/
  | otherKind (kind : PathKind) (path : String)
  | notInteger (text : String)
  | depthTooLow (depth : Int)
  | notMapping (text : String)
  | scalarPath (error : ScalarPathError)
  | config (error : ConfigError)
deriving Repr, DecidableEq

/-- The wording of a refusal. -/
def ValueError.message : ValueError → String
  | .noSuchPath kind path => s!"{kind.title} {Text.quoted path} does not exist."
  | .otherKind kind path =>
    let found := if kind = .file then "directory" else "file"
    s!"{kind.title} {Text.quoted path} is a {found}."
  | .notInteger text => s!"{Text.quoted text} is not a valid integer range."
  | .depthTooLow depth => s!"{depth} is not in the range x>=-1."
  | .notMapping text => s!"expected Scalar=module.Type, got {Text.quoted text}"
  | .scalarPath error => error.message
  | .config error => error.message

/-- Why a command line is refused. -/
inductive UsageError where
  | words (error : WordError)
  | missing (setting : Setting)
  | value (error : ValueError)
deriving Repr, DecidableEq

/-- The wording of a refusal. -/
def UsageError.message : UsageError → String
  | .words error => error.message
  | .missing setting =>
    let letter := match setting.letter? with
      | none => ""
      | some c => " / " ++ Text.quoted (String.ofList ['-', c])
    s!"Missing option {Text.quoted setting.name}{letter}."
  | .value error => error.message

/-! ## Values -/

/-- A path that leads to something of a kind. -/
def pathValue (tree : FileTree) (kind : PathKind) (path : String) : Except ValueError String :=
  match tree.entry? path, kind with
  | none, _ => .error (.noSuchPath kind path)
  | some (.file _), .directory => .error (.otherKind kind path)
  | some .directory, .file => .error (.otherKind kind path)
  | some _, _ => .ok path

/-- A number of levels, or -1. -/
def depthValue (text : String) : Except ValueError Int :=
  match Number.readInt? (Text.strippedChars text.toList) with
  | none => .error (.notInteger text)
  | some depth => if depth < -1 then .error (.depthTooLow depth) else .ok depth

/-- A scalar and its type, with an equals sign between them. -/
def mappingValue (text : String) : Except ValueError (String × ScalarType) :=
  match Text.cutFirst? '=' text.toList with
  | some (scalar@(_ :: _), path@(_ :: _)) =>
    match ScalarType.ofPath (Text.stripped (String.ofList path)) with
    | .ok type => .ok (Text.stripped (String.ofList scalar), type)
    | .error e => .error (.scalarPath e)
  | _ => .error (.notMapping text)

/-! ## Settings -/

/-- What the options set. -/
structure Settings where
  schema : String := ""
  output : String := ""
  operations? : Option String := none
  config : Config := {}
  depth : Int := 10
  scalars : Scalars := Scalars.default
  templateDirectory? : Option String := none
  header? : Option String := none
  verbose : Bool := false
deriving Repr

namespace Settings

/-- Sets one option that is given with some values, in order. Of an option that may be given
once, the last value counts. -/
def set (tree : FileTree) (s : Settings) (option : Setting) (values : List String) :
    Except ValueError Settings := do
  let last := values.getLastD ""
  let c := s.config
  match option with
  | .schema => return { s with schema := ← pathValue tree .any last }
  | .output => return { s with output := last }
  | .operations => return { s with operations? := ← pathValue tree .file last }
  | .packageName => return { s with config := { c with packageName := last } }
  | .maxDepth => return { s with depth := ← depthValue last }
  | .shortNames => return { s with config := { c with shortNames := true } }
  | .skipEntities => return { s with config := { c with skipEntities := true } }
  | .noDataTypes => return { s with config := { c with dataTypes := false } }
  | .includeQuery => return { s with config := { c with includeQueries := values } }
  | .includeMutation => return { s with config := { c with includeMutations := values } }
  | .includeSubscription => return { s with config := { c with includeSubscriptions := values } }
  | .includeField => return { s with config := { c with includeFields := values } }
  | .excludeField => return { s with config := { c with excludeFields := values } }
  | .excludeType => return { s with config := { c with excludeTypes := values } }
  | .typeMapping =>
    let mappings ← values.mapM mappingValue
    let scalars := mappings.foldl (fun known (name, type) => known.register name type) s.scalars
    return { s with scalars }
  | .templateDirectory =>
    return { s with templateDirectory? := ← pathValue tree .directory last }
  | .header => return { s with header? := if last = "" then none else some last }
  | .verbose => return { s with verbose := true }

/-- The option has to be given. -/
def isRequired (option : Setting) : Bool :=
  option = .schema || option = .output

/-- Sets one option, if it is given. -/
def setGiven (tree : FileTree) (given : List Given) (s : Settings) (option : Setting) :
    Except UsageError Settings :=
  match (given.filter (·.setting = option)).map (·.value) with
  | [] => if isRequired option then .error (.missing option) else .ok s
  | values => (s.set tree option values).mapError .value

/-- All options in the order in which they are looked at. -/
def order (given : List Given) : List Setting :=
  (given.map (·.setting) ++ Setting.all).foldl
    (fun seen s => if seen.contains s then seen else seen ++ [s]) []

/-- The settings of a command line. -/
def ofWords (tree : FileTree) (words : List String) : Except UsageError Settings := do
  let (given, left) ← (readWords words).mapError UsageError.words
  let s ← (order given).foldlM (setGiven tree given) {}
  if !left.isEmpty then throw (.words (.leftOver left))
  let config ← (s.config.checked s.depth).mapError fun e => UsageError.value (.config e)
  return { s with config }

end Settings

end ClientGen.Command
