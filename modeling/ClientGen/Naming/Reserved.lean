/-!
# Reserved names

The keywords of Python, which generated names have to avoid, and the names that the base
classes of generated classes use for themselves.
-/

namespace ClientGen.Naming

/-- The keywords, which are no identifiers. -/
def keywords : List String :=
  ["False", "None", "True", "and", "as", "assert", "async", "await", "break", "class",
   "continue", "def", "del", "elif", "else", "except", "finally", "for", "from", "global",
   "if", "import", "in", "is", "lambda", "nonlocal", "not", "or", "pass", "raise", "return",
   "try", "while", "with", "yield"]

/-- Attributes of models that a field must not hide. -/
def modelAttributes : List String :=
  ["copy", "dict", "json", "schema", "schema_json", "construct", "validate", "parse_obj",
   "parse_raw", "parse_file", "from_orm", "update_forward_refs", "model_config", "model_fields"]

/-- The field that every model of an object or interface type has. -/
def typenameField : String := "typename"

/-- Modules that the package of data types has already. -/
def reservedModules : List String := ["models"]

/-- What projection classes define for themselves. -/
def projectionNames : List String :=
  ["get_parent", "get_root", "_add_input_arguments", "_fields", "_fragments",
   "_input_arguments", "_parent", "_root", "_schema_type"]

/-- What query classes and their builders define for themselves. -/
def queryNames : List String :=
  ["self", "query_name", "build", "_values", "_fields_set", "_query_name"]

/-- What the methods of projection classes use for themselves. -/
def methodNames : List String := ["self", "projection"]

end ClientGen.Naming
