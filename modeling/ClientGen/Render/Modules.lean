import ClientGen.Naming.Unique
import ClientGen.Render.Descriptions
import ClientGen.Render.Signatures
import ClientGen.Text.Sorted

/-!
# Generated modules

The text of a module of query classes, of projection classes or of data types, as a list of
lines: those that open the module, those of its classes, and those that close it. A docstring may
run over several lines of the text; it counts as one line here.

Main definition: `ModuleContent.text`.
-/

namespace ClientGen.Render

/-! ## Lines -/

/-- The text of some lines. -/
def textOfLines (lines : List String) : String :=
  String.join (lines.map (· ++ "\n"))

/-- A line with its indentation, in steps of four spaces. -/
def indented (level : Nat) (line : String) : String :=
  String.ofList (List.replicate (4 * level) ' ') ++ line

/-- A docstring, if there is a description. -/
def docstring (level : Nat) (description? : Option String) : List String :=
  match present? description? with
  | none => []
  | some d => [indented level ("\"\"\"" ++ docstringText d ++ "\"\"\"")]

/-- The docstring of a class, with the empty line that follows it. -/
def classDocstring (description? : Option String) : List String :=
  match docstring 1 description? with
  | [] => []
  | lines => lines ++ [""]

/-- The imports that only annotations need: those of scalars, and the data types. -/
def typeImports (imports : List String) (typesPackage? : Option String) : List String :=
  let types := typesPackage?.toList.map fun p =>
    "from " ++ p ++ ".models import *  # noqa: F401,F403"
  match imports ++ types with
  | [] => []
  | lines => "" :: "if TYPE_CHECKING:" :: lines.map (indented 1)

/-- The names that a module gives to the outside. -/
def exports (names : List String) : List String :=
  "" :: "__all__ = [" :: names.map (fun n => indented 1 (Text.quoted n ++ ",")) ++ ["]"]

/-! ## Query classes -/

/-- How the constructor takes up an argument: always, or if it was given. -/
def takeArgument (fieldsSet : String) (p : Parameter) : List String :=
  let assignment := "self.input[" ++ Text.quoted p.name ++ "] = " ++ p.identifier
  if p.alwaysSent then [indented 2 assignment]
  else
    [indented 2 ("if " ++ p.identifier ++ " is not None or " ++ Text.quoted p.name ++ " in "
      ++ fieldsSet ++ ":"),
     indented 3 assignment]

/-- The method of a builder for an argument. -/
def builderMethod (className : String) (p : Parameter) : List String :=
  [""] ++
  [indented 2 ("def " ++ p.identifier ++ "(self, " ++ p.identifier ++ ": " ++ p.hint ++ ") -> "
    ++ className ++ ".Builder:")] ++
  docstring 3 p.description? ++
  [indented 3 ("self._values[" ++ Text.quoted p.identifier ++ "] = " ++ p.identifier),
   indented 3 ("self._fields_set.add(" ++ Text.quoted p.name ++ ")"),
   indented 3 "return self"]

/-- The lines of a query class. -/
def queryClass (c : QueryClass) : List String :=
  let fieldsSet := c.fieldsSetIdentifier
  let hasParameters := !c.parameters.isEmpty
  ["", "", "class " ++ c.name ++ "(GraphQLQuery):"] ++
  classDocstring c.description? ++
  [indented 1 ("def __init__(" ++ queryParameters c.parameters fieldsSet ++ "):"),
   indented 2 ("super().__init__(" ++ Text.quoted c.kind.keyword ++ ", query_name)")] ++
  (if hasParameters then [indented 2 (fieldsSet ++ " = " ++ fieldsSet ++ " or set()")] else []) ++
  c.parameters.flatMap (takeArgument fieldsSet) ++
  ["",
   indented 1 "def get_operation_name(self) -> str:",
   indented 2 ("return " ++ Text.quoted c.field),
   "",
   indented 1 "@staticmethod",
   indented 1 ("def new_request() -> " ++ c.name ++ ".Builder:"),
   indented 2 ("return " ++ c.name ++ ".Builder()"),
   "",
   indented 1 "class Builder:",
   indented 2 "def __init__(self):",
   indented 3 "self._values: dict[str, Any] = \x7b\x7d",
   indented 3 "self._fields_set: set[str] = set()",
   indented 3 "self._query_name: Optional[str] = None"] ++
  c.parameters.flatMap (builderMethod c.name) ++
  ["",
   indented 2 ("def query_name(self, query_name: str) -> " ++ c.name ++ ".Builder:"),
   indented 3 "self._query_name = query_name",
   indented 3 "return self",
   "",
   indented 2 ("def build(self) -> " ++ c.name ++ ":"),
   indented 3 ("return " ++ c.name ++ "("),
   indented 4 "**self._values,"] ++
  (if hasParameters then [indented 4 (fieldsSet ++ "=self._fields_set,")] else []) ++
  [indented 4 "query_name=self._query_name,",
   indented 3 ")"]

/-- The lines of a module of query classes that come before the classes. -/
def queriesOpening (classes : List QueryClass) (typesPackage? : Option String) : List String :=
  let imports := Text.sortedSet (classes.flatMap (·.imports))
  ["\"\"\"Generated GraphQL query classes. Do not edit.\"\"\"",
   "",
   "from __future__ import annotations",
   "",
   "from typing import TYPE_CHECKING, Any, List, Optional, Set, Union",
   "",
   "from gql_projections.runtime import GraphQLQuery"] ++
  typeImports imports typesPackage? ++
  exports (classes.map (·.name))

/-! ## Projection classes -/

/-- The base class of a projection class. -/
def baseName : ProjectionBase → String
  | .root => "BaseProjectionNode"
  | .sub => "BaseSubProjectionNode"
  | .fragment => "FragmentProjectionNode"

/-- How a projection names its root. -/
def rootExpression : RootAccess → String
  | .itself => "self"
  | .lookup => "self.get_root()"

/-- The call that records the arguments of a field, if it has any. -/
def recordArguments (field : String) : List Parameter → List String
  | [] => []
  | ps => [indented 2 ("self._add_input_arguments(" ++ Text.quoted field ++ ", "
      ++ inputArguments ps ++ ")")]

/-- The statements of a method. -/
def methodBody (m : Method) : List String :=
  match m.action with
  | .narrow _ root =>
    [indented 2 ("fragment = " ++ m.returns ++ "(self, " ++ rootExpression root ++ ")"),
     indented 2 "self._fragments.append(fragment)",
     indented 2 "return fragment"]
  | .descend field root =>
    [indented 2 ("projection = " ++ m.returns ++ "(self, " ++ rootExpression root ++ ")"),
     indented 2 ("self._fields[" ++ Text.quoted field ++ "] = projection")] ++
    recordArguments field m.parameters ++
    [indented 2 "return projection"]
  | .select field =>
    [indented 2 ("self._fields[" ++ Text.quoted field ++ "] = None")] ++
    recordArguments field m.parameters ++
    [indented 2 "return self"]

/-- The lines of a method. -/
def method (m : Method) : List String :=
  ["",
   indented 1 ("def " ++ m.name ++ "(" ++ methodParameters m.parameters ++ ") -> " ++ m.returns
     ++ ":")] ++
  docstring 2 m.description? ++
  methodBody m

/-- The constructor of a projection class. -/
def constructor (c : ProjectionClass) : List String :=
  match c.base with
  | .root =>
    [indented 1 "def __init__(self):",
     indented 2 ("super().__init__(" ++ Text.quoted c.schemaType ++ ")")]
  | _ =>
    [indented 1 ("def __init__(self, parent: " ++ c.parent?.getD "None" ++ ", root: "
       ++ c.root?.getD "None" ++ "):"),
     indented 2 ("super().__init__(parent, root, " ++ Text.quoted c.schemaType ++ ")")]

/-- The lines of a projection class. -/
def projectionClass (c : ProjectionClass) : List String :=
  ["", "", "class " ++ c.name ++ "(" ++ baseName c.base ++ "):"] ++
  classDocstring c.description? ++
  constructor c ++
  (if c.includeTypename then [indented 2 "self._fields[\"__typename\"] = None"] else []) ++
  c.methods.flatMap method

/-- The lines of a module of projection classes that come before the classes. -/
def projectionsOpening (classes : List ProjectionClass) (typesPackage? : Option String) :
    List String :=
  let imports := Text.sortedSet (classes.flatMap (·.imports))
  ["\"\"\"Generated GraphQL projection classes. Do not edit.\"\"\"",
   "",
   "from __future__ import annotations",
   "",
   "from typing import TYPE_CHECKING, Any, List, Optional, Union",
   "",
   "from gql_projections.runtime import (",
   "    UNSET,",
   "    BaseProjectionNode,",
   "    BaseSubProjectionNode,",
   "    FragmentProjectionNode,",
   "    InputArgument,",
   ")"] ++
  typeImports imports typesPackage? ++
  exports (classes.map (·.name))

/-! ## Data types -/

/-- The members of an enum class. A value that is a keyword has an underscore after it. -/
def enumMembers : List String → List String
  | [] => [indented 1 "pass"]
  | values => values.map fun v =>
    indented 1 (Naming.avoidKeyword v ++ " = " ++ Text.quoted v)

/-- The lines of a field of a model. -/
def modelField (f : DataField) : List String :=
  (match present? f.description? with
    | none => []
    | some d => [indented 1 ("# " ++ commentText d)]) ++
  [indented 1 (fieldDeclaration f)]

/-- The field for the name of the type, which models of object and interface types have. -/
def typenameLines : DataBody → List String
  | .model _ =>
    ["", indented 1 "typename: Optional[str] = Field(default=None, alias=\"__typename\")"]
  | _ => []

/-- The lines of an enum class. -/
def enumClass (c : DataClass) (values : List String) : List String :=
  ["", "", "class " ++ c.name ++ "(str, Enum):"] ++
  classDocstring c.description? ++
  enumMembers values

/-- The lines of a model or input class. -/
def modelClass (c : DataClass) : List String :=
  ["", "", "class " ++ c.name ++ "(BaseModel):"] ++
  classDocstring c.description? ++
  [indented 1
    "model_config = ConfigDict(populate_by_name=True, protected_namespaces=(), extra=\"allow\")"] ++
  typenameLines c.body ++
  (c.body.fields).flatMap modelField

/-- The lines of a data type. -/
def dataClass (c : DataClass) : List String :=
  match c.body with
  | .enum values => enumClass c values
  | _ => modelClass c

/-- The classes of a kind. -/
def ofKind (kind : String) (classes : List DataClass) : List DataClass :=
  classes.filter (·.body.kindName = kind)

/-- The classes of inputs, and after them those of models. -/
def modelsOf (classes : List DataClass) : List DataClass :=
  ofKind "input" classes ++ ofKind "model" classes

/-- The classes in the order of their module: enums come first. -/
def arranged (classes : List DataClass) : List DataClass :=
  ofKind "enum" classes ++ modelsOf classes

/-- The lines of a module of data types that come before the classes. -/
def modelsOpening (classes : List DataClass) : List String :=
  let imports := Text.sortedSet (classes.flatMap (·.imports))
  ["\"\"\"Generated GraphQL data types. Do not edit.\"\"\"",
   "",
   "from __future__ import annotations",
   "",
   "from enum import Enum",
   "from typing import Any, List, Optional, Union",
   "",
   "from pydantic import BaseModel, ConfigDict, Field"] ++
  imports ++
  exports ((arranged classes).map (·.name))

/-- The statements that resolve the annotations of models, after all of them are there. -/
def rebuilds : List DataClass → List String
  | [] => []
  | models => "" :: "" :: models.map (·.name ++ ".model_rebuild()")

/-! ## Modules -/

/-- The lines of a class. -/
def classLines : GeneratedClass → List String
  | .query c => queryClass c
  | .projection c => projectionClass c
  | .dataType c => dataClass c

/-- What a module is made of. -/
inductive ModuleContent where
  | queries (classes : List QueryClass)
  | projections (classes : List ProjectionClass)
  | models (classes : List DataClass)
deriving Repr

namespace ModuleContent

/-- The classes of a module, in the order in which they are written. -/
def written : ModuleContent → List GeneratedClass
  | queries classes => classes.map .query
  | projections classes => classes.map .projection
  | models classes => (arranged classes).map .dataType

/-- The lines before the classes. -/
def opening (typesPackage? : Option String) : ModuleContent → List String
  | queries classes => queriesOpening classes typesPackage?
  | projections classes => projectionsOpening classes typesPackage?
  | models classes => modelsOpening classes

/-- The lines after the classes. -/
def closing : ModuleContent → List String
  | models classes => rebuilds (modelsOf classes)
  | _ => []

/-- The text that is generated for a module. -/
def text (typesPackage? : Option String) (content : ModuleContent) : String :=
  textOfLines (content.opening typesPackage? ++ content.written.flatMap classLines
    ++ content.closing)

end ModuleContent

end ClientGen.Render
