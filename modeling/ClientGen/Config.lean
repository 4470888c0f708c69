import ClientGen.Document.Basic
import ClientGen.Text.Identifier
import ClientGen.Text.Quoted
import ClientGen.Text.Split

/-!
# Configuration

The options of a run. `Config.checked` is the only way in which a configuration is refused:
the depth has to be a number of levels or -1 for no limit, and the three package names have
to be dotted names.
-/

namespace ClientGen

open ClientGen.Document (OperationKind)

/-- The options of a run. The lists are sets: only membership counts. -/
structure Config where
  packageName : String := "generated"
  clientPackage : String := "client"
  typesPackage : String := "types"
  /-- How many levels of fields a projection may have below its root; without it, any. -/
  maxDepth? : Option Nat := some 10
  shortNames : Bool := false
  skipEntities : Bool := false
  dataTypes : Bool := true
  /-- Root fields by kind of operation; an empty list admits all. -/
  includeQueries : List String := []
  includeMutations : List String := []
  includeSubscriptions : List String := []
  /-- Fields by name (`title`) or by type and name (`Movie.title`). -/
  includeFields : List String := []
  excludeFields : List String := []
  excludeTypes : List String := []
  skipDirectives : List String := ["skipcodegen"]
  keyDirective : String := "key"
deriving Repr, Inhabited

/-- Why a configuration is refused. -/
inductive ConfigError where
  | depthTooLow (depth : Int)
  | notDotted (option value : String)
deriving Repr, DecidableEq

/-- The wording of a refusal. -/
def ConfigError.message : ConfigError → String
  | .depthTooLow depth => s!"max_projection_depth must be >= 0 or -1 (unlimited), got {depth}"
  | .notDotted option value =>
    s!"{option} must be a dotted Python identifier, got {Text.quoted value}"

/-- A row of identifiers with single dots between them. -/
def isDottedName (s : String) : Bool :=
  (Text.splitAt '.' s.toList).all Text.isIdentifierChars

namespace Config

/-- The package of the query and projection classes. -/
def clientNamespace (c : Config) : String :=
  c.packageName ++ "." ++ c.clientPackage

/-- The package of the data types. -/
def typesNamespace (c : Config) : String :=
  c.packageName ++ "." ++ c.typesPackage

/-- A projection at a depth may have sub-projections. -/
def mayDescend (c : Config) (depth : Nat) : Bool :=
  match c.maxDepth? with
  | none => true
  | some limit => depth < limit

/-- The root fields that are asked for; none if all are. -/
def includedOperations (c : Config) : OperationKind → List String
  | .query => c.includeQueries
  | .mutation => c.includeMutations
  | .subscription => c.includeSubscriptions

private def checkName (option value : String) : Except ConfigError Unit :=
  if isDottedName value then .ok () else .error (.notDotted option value)

/-- The configuration with the given depth, -1 meaning no limit, unless the depth or a package
name is refused. -/
def checked (c : Config) (depth : Int) : Except ConfigError Config := do
  if depth < -1 then throw (.depthTooLow depth)
  checkName "package_name" c.packageName
  checkName "sub_package_name_client" c.clientPackage
  checkName "sub_package_name_types" c.typesPackage
  return { c with maxDepth? := if depth < 0 then none else some depth.toNat }

private theorem isDottedName_of_checkName {option value : String} {α : Type}
    {next : Unit → Except ConfigError α} {a : α} (h : (checkName option value >>= next) = .ok a) :
    isDottedName value = true ∧ next () = .ok a := by
  unfold checkName at h
  by_cases hvalue : isDottedName value = true
  · rw [if_pos hvalue] at h
    exact ⟨hvalue, h⟩
  · rw [if_neg hvalue] at h
    cases h

/-- The packages of a configuration that is not refused have dotted names. -/
theorem dotted_of_checked {c d : Config} {depth : Int} (h : c.checked depth = .ok d) :
    isDottedName d.packageName = true ∧ isDottedName d.clientPackage = true
      ∧ isDottedName d.typesPackage = true := by
  unfold checked at h
  by_cases hdepth : depth < -1
  · rw [if_pos hdepth] at h
    cases h
  · rw [if_neg hdepth] at h
    obtain ⟨hpackage, h⟩ := isDottedName_of_checkName h
    obtain ⟨hclient, h⟩ := isDottedName_of_checkName h
    obtain ⟨htypes, h⟩ := isDottedName_of_checkName h
    cases h
    exact ⟨hpackage, hclient, htypes⟩

end Config

end ClientGen
