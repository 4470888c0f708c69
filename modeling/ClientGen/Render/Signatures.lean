import ClientGen.Classes
import ClientGen.Text.Quoted

/-!
# Signatures and declarations

The one-line pieces of the generated text: parameter lists, the arguments that a method hands
on, and the declarations of fields.
-/

namespace ClientGen.Render

/-- Pieces with commas between them. -/
def commas (pieces : List String) : String :=
  ", ".intercalate pieces

/-! ## Parameter lists -/

/-- A parameter with its default. -/
def parameterText (default : String) (p : Parameter) : String :=
  p.identifier ++ ": " ++ p.hint ++ " = " ++ default

/-- The parameters of a method of a projection. -/
def methodParameters : List Parameter → String
  | [] => "self"
  | ps => "self, *, " ++ commas (ps.map (parameterText "UNSET"))

/-- The parameters of the constructor of a query class. -/
def queryParameters (parameters : List Parameter) (fieldsSet : String) : String :=
  match parameters with
  | [] => "self, query_name: Optional[str] = None"
  | ps =>
    "self, *, " ++ commas (ps.map (parameterText "None")
      ++ [fieldsSet ++ ": Optional[Set[str]] = None", "query_name: Optional[str] = None"])

/-! ## Arguments that are handed on -/

/-- The arguments of a method with their names. -/
def inputArguments (parameters : List Parameter) : String :=
  let items := parameters.map fun p =>
    "InputArgument(" ++ Text.quoted p.name ++ ", " ++ p.identifier ++ ")"
  "[" ++ commas items ++ "]"

/-! ## Fields -/

/-- The declaration of a field of a model. -/
def fieldDeclaration (f : DataField) : String :=
  let declared := f.name ++ ": " ++ f.hint
  match f.required, f.alias?.filter (· ≠ "") with
  | true, some name => declared ++ " = Field(alias=" ++ Text.quoted name ++ ")"
  | true, none => declared
  | false, some name => declared ++ " = Field(default=None, alias=" ++ Text.quoted name ++ ")"
  | false, none => declared ++ " = None"

end ClientGen.Render
