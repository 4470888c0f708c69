import ClientGen.Document.Basic
import ClientGen.Document.Token

/-!
# Reading documents

The grammar of documents, as readers of token lists. A reader takes tokens from the front and
fails where no sentence of its kind begins. Nested values, types and selections take a fuel
that the number of remaining tokens always covers, since each level consumes a token of its
own.

Main definition: `Document.read?`, the document that a text denotes.
-/

namespace ClientGen.Document

/-- Takes a sentence from the front of a list of tokens. -/
abbrev Reader (α : Type) := StateT (List Token) Option α

namespace Reader

variable {α : Type}

/-! ## Single tokens -/

/-- The next token, left in place. -/
def peek? : Reader (Option Token) :=
  fun tokens => some (tokens.head?, tokens)

/-- The next token. -/
def next : Reader Token
  | [] => none
  | token :: rest => some (token, rest)

/-- Takes the next token if it is the given one, and says whether it was. -/
def accept (token : Token) : Reader Bool
  | [] => some (false, [])
  | t :: rest => if t = token then some (true, rest) else some (false, t :: rest)

/-- The given token. -/
def expect (token : Token) : Reader Unit := do
  let t ← next
  if t = token then pure () else failure

/-- A name. -/
def name : Reader String := do
  match ← next with
  | .name text => pure text
  | _ => failure

/-- Nothing is left. -/
def finished : Reader Unit
  | [] => some ((), [])
  | _ :: _ => none

/-- Runs a reader with as much fuel as there are tokens. -/
def fueled (reader : Nat → Reader α) : Reader α :=
  fun tokens => reader tokens.length tokens

/-! ## Rows -/

/-- Items up to a closing token, which is taken. -/
def itemsUntil (item : Reader α) (close : Token) : Nat → Reader (List α)
  | 0 => failure
  | fuel + 1 => do
    if ← accept close then pure []
    else
      let a ← item
      let as ← itemsUntil item close fuel
      pure (a :: as)

/-- Any number of items between an opening token, already taken, and a closing one. -/
def items (item : Reader α) (close : Token) : Reader (List α) :=
  fueled (itemsUntil item close)

/-- At least one item between an opening token, already taken, and a closing one. -/
def someItems (item : Reader α) (close : Token) : Reader (List α) := do
  let a ← item
  let as ← items item close
  pure (a :: as)

/-- At least one item between brackets, or no brackets at all. -/
def optionalItems (opening : Token) (item : Reader α) (close : Token) : Reader (List α) := do
  if ← accept opening then someItems item close else pure []

/-- Any number of further items, each after a separator. -/
def moreSeparated (separator : Token) (item : Reader α) : Nat → Reader (List α)
  | 0 => pure []
  | fuel + 1 => do
    if ← accept separator then
      let a ← item
      let as ← moreSeparated separator item fuel
      pure (a :: as)
    else pure []

/-- At least one item, with a separator between any two, and perhaps one in front. -/
def separated (separator : Token) (item : Reader α) : Reader (List α) := do
  let _ ← accept separator
  let a ← item
  let as ← fueled (moreSeparated separator item)
  pure (a :: as)

/-! ## Values -/

/-- What a name means where a value stands. -/
def valueOfName (text : String) : Value :=
  if text = "true" then .boolean true
  else if text = "false" then .boolean false
  else if text = "null" then .null
  else .enum text

/-- An entry of an object, with the reader of its value. -/
def entryWith (item : Reader Value) : Reader (String × Value) := do
  let key ← name
  expect (.mark ':')
  return (key, ← item)

/-- A value. In a constant one there are no variables. -/
def valueWithin (constant : Bool) : Nat → Reader Value
  | 0 => failure
  | fuel + 1 => do
    match ← next with
    | .int n => pure (.int n)
    | .float d => pure (.float d)
    | .string s => pure (.string s)
    | .name text => pure (valueOfName text)
    | .mark '[' => return .list (← items (valueWithin constant fuel) (.mark ']'))
    | .mark '\x7b' => return .object (← items (entryWith (valueWithin constant fuel)) (.mark '\x7d'))
    | .mark '$' => if constant then failure else return .var (← name)
    | _ => failure

/-- A value. -/
def value (constant : Bool) : Reader Value :=
  fueled (valueWithin constant)

/-- A named value. -/
def argument (constant : Bool) : Reader Argument := do
  let key ← name
  expect (.mark ':')
  return ⟨key, ← value constant⟩

/-- Arguments in parentheses, or none. -/
def arguments (constant : Bool) : Reader (List Argument) :=
  optionalItems (.mark '(') (argument constant) (.mark ')')

/-- Directives, at most as many as the fuel admits. -/
def directivesWithin (constant : Bool) : Nat → Reader (List Directive)
  | 0 => pure []
  | fuel + 1 => do
    if ← accept (.mark '@') then
      let key ← name
      let args ← arguments constant
      let more ← directivesWithin constant fuel
      pure (⟨key, args⟩ :: more)
    else pure []

/-- Any number of directives. -/
def directives (constant : Bool) : Reader (List Directive) :=
  fueled (directivesWithin constant)

/-! ## Types -/

/-- A type, with its exclamation mark if it has one. -/
def typeRefWithin : Nat → Reader TypeRef
  | 0 => failure
  | fuel + 1 => do
    let inner ← match ← next with
      | .name text => pure (TypeRef.named text)
      | .mark '[' =>
        let item ← typeRefWithin fuel
        expect (.mark ']')
        pure (.list item)
      | _ => failure
    return if ← accept (.mark '!') then .nonNull inner else inner

/-- A type. -/
def typeRef : Reader TypeRef :=
  fueled typeRefWithin

/-! ## Selections and operations -/

/-- What follows the name of a field. -/
def fieldBody (alias? : Option String) (key : String) (children : Reader (List SelectionNode)) :
    Reader SelectionNode := do
  let args ← arguments false
  let dirs ← directives false
  let subs ← if (← peek?) = some (.mark '\x7b') then children else pure []
  return .field alias? key args dirs subs

/-- What follows the name, or alias, of a field. -/
def fieldAfter (first : String) (children : Reader (List SelectionNode)) :
    Reader SelectionNode := do
  if ← accept (.mark ':') then fieldBody (some first) (← name) children
  else fieldBody none first children

/-- What follows the three points of a fragment. -/
def fragmentAfter (children : Reader (List SelectionNode)) : Reader SelectionNode := do
  match ← peek? with
  | some (.name text) =>
    let _ ← next
    if text = "on" then
      let condition ← name
      let dirs ← directives false
      return .inlineFragment (some condition) dirs (← children)
    else return .spread text (← directives false)
  | _ =>
    let dirs ← directives false
    return .inlineFragment none dirs (← children)

/-- An entry of a selection set, with the reader of the selections below it. -/
def selectionWith (children : Reader (List SelectionNode)) : Reader SelectionNode := do
  match ← next with
  | .name text => fieldAfter text children
  | .spread => fragmentAfter children
  | _ => failure

/-- A selection set in braces. -/
def selectionSetWithin : Nat → Reader (List SelectionNode)
  | 0 => failure
  | fuel + 1 => do
    expect (.mark '\x7b')
    someItems (selectionWith (selectionSetWithin fuel)) (.mark '\x7d')

/-- A selection set in braces. -/
def selectionSet : Reader (List SelectionNode) :=
  fueled selectionSetWithin

/-- The default of a variable, argument or input field. -/
def defaultValue : Reader (Option Value) := do
  if ← accept (.mark '=') then return some (← value true) else pure none

/-- A variable of an operation. -/
def variableDefinition : Reader VariableDefinition := do
  expect (.mark '$')
  let key ← name
  expect (.mark ':')
  let type ← typeRef
  let default? ← defaultValue
  return ⟨key, type, default?, ← directives true⟩

/-- An operation whose keyword has been taken. -/
def operationAfter (kind : OperationKind) : Reader Operation := do
  let name? ← match ← peek? with
    | some (.name text) =>
      let _ ← next
      pure (some text)
    | _ => pure none
  let parameters ← optionalItems (.mark '(') variableDefinition (.mark ')')
  let dirs ← directives false
  return ⟨kind, name?, parameters, dirs, ← selectionSet⟩

/-- A fragment whose keyword has been taken. -/
def fragmentDefinitionAfter : Reader Fragment := do
  let key ← name
  if key = "on" then failure
  expect (.name "on")
  let condition ← name
  let dirs ← directives false
  return ⟨key, condition, dirs, ← selectionSet⟩

/-! ## Type system definitions -/

/-- A string in front of a definition. -/
def description : Reader (Option String) := do
  match ← peek? with
  | some (.string text) =>
    let _ ← next
    pure (some text)
  | _ => pure none

/-- An argument or input field. -/
def inputDefinition : Reader InputDefinition := do
  let about ← description
  let key ← name
  expect (.mark ':')
  let type ← typeRef
  let default? ← defaultValue
  return ⟨about, key, type, default?, ← directives true⟩

/-- A field of an object or interface type. -/
def fieldDefinition : Reader FieldDefinition := do
  let about ← description
  let key ← name
  let args ← optionalItems (.mark '(') inputDefinition (.mark ')')
  expect (.mark ':')
  let type ← typeRef
  return ⟨about, key, args, type, ← directives true⟩

/-- The fields of an object or interface type, in braces, or none. -/
def fieldDefinitions : Reader (List FieldDefinition) :=
  optionalItems (.mark '\x7b') fieldDefinition (.mark '\x7d')

/-- The interfaces of a type, or none. -/
def interfaces : Reader (List String) := do
  if ← accept (.name "implements") then separated (.mark '&') name else pure []

/-- The members of a union, or none. -/
def members : Reader (List String) := do
  if ← accept (.mark '=') then separated (.mark '|') name else pure []

/-- The names that are no names of enum values. -/
def isReservedValue (text : String) : Bool :=
  text = "true" || text = "false" || text = "null"

/-- A value of an enum type. -/
def enumValueDefinition : Reader EnumValueDefinition := do
  let about ← description
  let key ← name
  if isReservedValue key then failure
  return ⟨about, key, ← directives true⟩

/-- The values of an enum type, in braces, or none. -/
def enumValues : Reader (List EnumValueDefinition) :=
  optionalItems (.mark '\x7b') enumValueDefinition (.mark '\x7d')

/-- The fields of an input type, in braces, or none. -/
def inputFields : Reader (List InputDefinition) :=
  optionalItems (.mark '\x7b') inputDefinition (.mark '\x7d')

/-- The keyword of an operation and the type at its root. -/
def operationRoot : Reader (OperationKind × String) := do
  let keyword ← name
  match OperationKind.ofKeyword? keyword with
  | none => failure
  | some kind =>
    expect (.mark ':')
    return (kind, ← name)

/-- The places where a directive may stand. -/
def directiveLocations : List String :=
  ["QUERY", "MUTATION", "SUBSCRIPTION", "FIELD", "FRAGMENT_DEFINITION", "FRAGMENT_SPREAD",
   "INLINE_FRAGMENT", "VARIABLE_DEFINITION", "SCHEMA", "SCALAR", "OBJECT", "FIELD_DEFINITION",
   "ARGUMENT_DEFINITION", "INTERFACE", "UNION", "ENUM", "ENUM_VALUE", "INPUT_OBJECT",
   "INPUT_FIELD_DEFINITION"]

/-- A place where a directive may stand. -/
def directiveLocation : Reader String := do
  let place ← name
  if directiveLocations.contains place then pure place else failure

/-- A directive definition whose keyword has been taken. -/
def directiveDefinitionAfter : Reader Definition := do
  expect (.mark '@')
  let key ← name
  let _ ← optionalItems (.mark '(') inputDefinition (.mark ')')
  let _ ← accept (.name "repeatable")
  expect (.name "on")
  let _ ← separated (.mark '|') directiveLocation
  return .directive key

/-- A type system definition whose description and keyword have been taken, if the keyword
is one of a type system definition. -/
def typeSystemAfter? (about : Option String) (keyword : String) : Option (Reader Definition) :=
  match keyword with
  | "schema" => some do
    let _ ← directives true
    expect (.mark '\x7b')
    return .schema (← someItems operationRoot (.mark '\x7d'))
  | "scalar" => some do
    let key ← name
    return .type ⟨about, key, ← directives true⟩ .scalar
  | "type" => some do
    let key ← name
    let supers ← interfaces
    let dirs ← directives true
    return .type ⟨about, key, dirs⟩ (.object supers (← fieldDefinitions))
  | "interface" => some do
    let key ← name
    let supers ← interfaces
    let dirs ← directives true
    return .type ⟨about, key, dirs⟩ (.interface supers (← fieldDefinitions))
  | "union" => some do
    let key ← name
    let dirs ← directives true
    return .type ⟨about, key, dirs⟩ (.union (← members))
  | "enum" => some do
    let key ← name
    let dirs ← directives true
    return .type ⟨about, key, dirs⟩ (.enum (← enumValues))
  | "input" => some do
    let key ← name
    let dirs ← directives true
    return .type ⟨about, key, dirs⟩ (.input (← inputFields))
  | "directive" => some directiveDefinitionAfter
  | _ => none

/-- An extension whose keywords have been taken. It has to add something. -/
def extensionAfter (keyword : String) : Reader Definition := do
  match keyword with
  | "schema" =>
    let dirs ← directives true
    let roots ← optionalItems (.mark '\x7b') operationRoot (.mark '\x7d')
    if dirs.isEmpty && roots.isEmpty then failure
    return .otherExtension
  | "scalar" =>
    let _ ← name
    let dirs ← directives true
    if dirs.isEmpty then failure
    return .otherExtension
  | "type" =>
    let key ← name
    let supers ← interfaces
    let dirs ← directives true
    let fields ← fieldDefinitions
    if supers.isEmpty && dirs.isEmpty && fields.isEmpty then failure
    return .typeExtension (.object key supers dirs fields)
  | "interface" =>
    let key ← name
    let supers ← interfaces
    let dirs ← directives true
    let fields ← fieldDefinitions
    if supers.isEmpty && dirs.isEmpty && fields.isEmpty then failure
    return .typeExtension (.interface key supers dirs fields)
  | "union" =>
    let key ← name
    let dirs ← directives true
    let types ← members
    if dirs.isEmpty && types.isEmpty then failure
    return .typeExtension (.union key dirs types)
  | "enum" =>
    let _ ← name
    let dirs ← directives true
    let values ← enumValues
    if dirs.isEmpty && values.isEmpty then failure
    return .otherExtension
  | "input" =>
    let _ ← name
    let dirs ← directives true
    let fields ← inputFields
    if dirs.isEmpty && fields.isEmpty then failure
    return .otherExtension
  | _ => failure

/-! ## Documents -/

/-- An executable definition or an extension whose keyword has been taken; these have no
description. -/
def otherAfter (keyword : String) : Reader Definition := do
  match OperationKind.ofKeyword? keyword with
  | some kind => return .operation (← operationAfter kind)
  | none =>
    match keyword with
    | "fragment" => return .fragment (← fragmentDefinitionAfter)
    | "extend" => extensionAfter (← name)
    | _ => failure

/-- A definition. -/
def definition : Reader Definition := do
  if (← peek?) = some (.mark '\x7b') then
    return .operation ⟨.query, none, [], [], ← selectionSet⟩
  let about ← description
  let keyword ← name
  match typeSystemAfter? about keyword with
  | some reader => reader
  | none => if about.isSome then failure else otherAfter keyword

/-- Definitions to the end of the tokens, at most as many as the fuel admits. -/
def definitionsWithin : Nat → Reader (List Definition)
  | 0 => failure
  | fuel + 1 => do
    let d ← definition
    if (← peek?).isNone then return [d]
    let ds ← definitionsWithin fuel
    return d :: ds

/-- At least one definition, to the end of the tokens. -/
def document : Reader Document :=
  fueled definitionsWithin

end Reader

/-- The document that a text denotes, if it is one. -/
def read? (text : String) : Option Document := do
  let tokens ← Token.ofChars? text.toList
  let (document, _) ← Reader.document tokens
  some document

/-- The value that a text denotes, if it is one value and nothing else. -/
def readValue? (constant : Bool) (text : String) : Option Value := do
  let tokens ← Token.ofChars? text.toList
  let (value, rest) ← Reader.value constant tokens
  if rest.isEmpty then some value else none

end ClientGen.Document
