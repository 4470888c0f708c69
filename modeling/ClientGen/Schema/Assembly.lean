import ClientGen.Document.Reader
import ClientGen.Schema.Lookup

/-!
# Schemas of documents

A schema is put together definition by definition. An extension may come before the
definition of its type: it then leaves a type without a description or fields of its own, and
the definition takes over what the extension has gathered.

Main definitions: `Schema.add`, one definition; `Schema.ofDocument`, all of them in order.
-/

namespace ClientGen

open ClientGen.Document

/-! ## Constants -/

namespace Constant

/- Every value in a type system definition is constant, so the case of a variable is never
reached. -/
mutual

/-- The constant that a value denotes. -/
def ofValue : Value → Constant
  | .var _ => .null
  | .null => .null
  | .boolean b => .boolean b
  | .int n => .int n
  | .float d => .float (Number.Binary64.ofDecimal d)
  | .string s => .text s
  | .enum name => .text name
  | .list items => .list (ofValues items)
  | .object fields => .object (Entries.ofList (ofFields fields))

/-- The constants that a list of values denotes. -/
def ofValues : List Value → List Constant
  | [] => []
  | v :: vs => ofValue v :: ofValues vs

/-- The constants that the fields of an object denote. -/
def ofFields : List (String × Value) → List (String × Constant)
  | [] => []
  | (name, v) :: rest => (name, ofValue v) :: ofFields rest

end

/-- The constant, unless it is null. -/
def nonNull? : Constant → Option Constant
  | .null => none
  | c => some c

end Constant

/-! ## Parts of a type -/

/-- The name at the heart of a type reference. -/
def TypeRef.baseName : TypeRef → String
  | .named name => name
  | .list item => TypeRef.baseName item
  | .nonNull inner => TypeRef.baseName inner

/-- What is kept of a type reference. -/
structure TypeUse where
  name : String
  isList : Bool
  isOptional : Bool

/-- A type reference is a list if its outermost type is one, with or without an exclamation
mark. -/
def TypeUse.ofRef : TypeRef → TypeUse
  | .nonNull (.list item) => ⟨TypeRef.baseName item, true, false⟩
  | .nonNull inner => ⟨TypeRef.baseName inner, false, false⟩
  | .list item => ⟨TypeRef.baseName item, true, true⟩
  | .named name => ⟨name, false, true⟩

/-- A directive with its arguments as constants; of two arguments of one name the later
counts. -/
def AppliedDirective.ofNode (d : Directive) : AppliedDirective :=
  ⟨d.name, Entries.ofList (d.arguments.map fun a => (a.name, Constant.ofValue a.value))⟩

/-- An argument or input field. -/
def InputValue.ofNode (d : InputDefinition) : InputValue :=
  let use := TypeUse.ofRef d.type
  ⟨d.name, use.name, use.isList, use.isOptional,
    d.default?.bind fun v => (Constant.ofValue v).nonNull?, d.description?⟩

/-- A field. -/
def Field.ofNode (d : FieldDefinition) : Field :=
  let use := TypeUse.ofRef d.type
  ⟨d.name, use.name, use.isList, use.isOptional, d.description?,
    d.arguments.map InputValue.ofNode, d.directives.map AppliedDirective.ofNode⟩

/-- A type as its definition alone describes it. -/
def TypeDef.ofNode (header : TypeHeader) (body : TypeBody) : TypeDef :=
  let base (kind : TypeKind) : TypeDef :=
    { name := header.name
      kind
      directives := header.directives.map AppliedDirective.ofNode
      description? := header.description? }
  match body with
  | .scalar => base .scalar
  | .object interfaces fields => { base .object with interfaces, fields := fields.map Field.ofNode }
  | .interface interfaces fields =>
    { base .interface with interfaces, fields := fields.map Field.ofNode }
  | .union members => { base .union with members }
  | .enum values => { base .enum with values := values.map fun v => ⟨v.name, v.description?⟩ }
  | .input fields => { base .input with inputFields := fields.map InputValue.ofNode }

/-! ## Adding a definition -/

/-- Adds the names that are not there yet. -/
def addMissing (names more : List String) : List String :=
  more.foldl (fun ns n => if ns.contains n then ns else ns ++ [n]) names

namespace TypeDef

/-- A definition takes over the directives, interfaces and members that were gathered before
it. -/
def takeOver (new earlier : TypeDef) : TypeDef :=
  { new with
    directives := new.directives ++ earlier.directives
    interfaces := addMissing new.interfaces earlier.interfaces
    members := new.members ++ earlier.members }

end TypeDef

namespace Schema

/-- Replaces the type of the same name, at its place, or else adds the type at the end. -/
def putType (t : TypeDef) : List TypeDef → List TypeDef
  | [] => [t]
  | u :: us => if u.name = t.name then t :: us else u :: putType t us

/-- Adds a type definition. -/
def define (s : Schema) (t : TypeDef) : Schema :=
  let merged := match s.findType? t.name with
    | none => t
    | some earlier => t.takeOver earlier
  { s with types := putType merged s.types }

/-- Changes the type of a name, which is made if there is none. -/
def extendType (s : Schema) (name : String) (kind : TypeKind) (change : TypeDef → TypeDef) :
    Schema :=
  let t := (s.findType? name).getD { name, kind }
  { s with types := putType (change t) s.types }

/-- Adds fields to those by which a type is extended. -/
def extendFields (s : Schema) (name : String) (fields : List Field) : Schema :=
  let earlier := (Entries.get? name s.extensions).getD []
  { s with extensions := Entries.put name (earlier ++ fields) s.extensions }

/-- Adds an extension. Only an object extension brings interfaces, and only a union extension
brings no directives. -/
def extend (s : Schema) : TypeExtension → Schema
  | .object name interfaces directives fields =>
    (s.extendType name .object fun t =>
      { t with
        directives := t.directives ++ directives.map AppliedDirective.ofNode
        interfaces := addMissing t.interfaces interfaces }).extendFields name
      (fields.map Field.ofNode)
  | .interface name _ directives fields =>
    (s.extendType name .interface fun t =>
      { t with directives := t.directives ++ directives.map AppliedDirective.ofNode }).extendFields
      name (fields.map Field.ofNode)
  | .union name _ members =>
    s.extendType name .union fun t => { t with members := t.members ++ members }

/-- Adds a definition; what says nothing about types is passed over. -/
def add (s : Schema) : Definition → Schema
  | .type header body => s.define (.ofNode header body)
  | .typeExtension extension => s.extend extension
  | .schema roots => { s with roots := roots.foldl (fun r (kind, name) => r.set kind name) s.roots }
  | .operation _ | .fragment _ | .directive _ | .otherExtension => s

/-- The schema of a document. -/
def ofDocument (d : Document) : Schema :=
  d.foldl add {}

/-- The schema of several texts, one after the other, if each of them is a document. -/
def read? (texts : List String) : Option Schema := do
  let documents ← texts.mapM Document.read?
  some (ofDocument documents.flatten)

end Schema

end ClientGen
