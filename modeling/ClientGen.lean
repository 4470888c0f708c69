import ClientGen.Archive.Basic
import ClientGen.Archive.Inflate
import ClientGen.Archive.Zip
import ClientGen.Calls
import ClientGen.Classes
import ClientGen.Command.Run
import ClientGen.Command.Settings
import ClientGen.Command.Words
import ClientGen.Config
import ClientGen.Context
import ClientGen.DataTypes
import ClientGen.Digest.Sha1
import ClientGen.Document.Basic
import ClientGen.Document.BlockText
import ClientGen.Document.Reader
import ClientGen.Document.Token
import ClientGen.Entries
import ClientGen.Example.Operations
import ClientGen.Example.Selection
import ClientGen.FieldFilter
import ClientGen.Files
import ClientGen.Generation
import ClientGen.Main
import ClientGen.Naming.Registry
import ClientGen.Naming.Reserved
import ClientGen.Naming.Shortener
import ClientGen.Naming.Unique
import ClientGen.Naming.Words
import ClientGen.Number.Binary64
import ClientGen.Number.Decimal
import ClientGen.Number.DecimalValue
import ClientGen.Number.Shortest
import ClientGen.Projection.Emission
import ClientGen.Projection.Position
import ClientGen.Projection.Tree
import ClientGen.Proofs.Accounts
import ClientGen.Proofs.Calls.Accessors
import ClientGen.Proofs.Calls.Attributes
import ClientGen.Proofs.Calls.Covered
import ClientGen.Proofs.Calls.Ending
import ClientGen.Proofs.Calls.Entities
import ClientGen.Proofs.Calls.Enums
import ClientGen.Proofs.Calls.Failures
import ClientGen.Proofs.Calls.Hints
import ClientGen.Proofs.Calls.MethodNames
import ClientGen.Proofs.Calls.ModelNames
import ClientGen.Proofs.Calls.Names
import ClientGen.Proofs.Calls.Requested
import ClientGen.Proofs.DataTypes.Covered
import ClientGen.Proofs.DataTypes.Hints
import ClientGen.Proofs.DataTypes.Requests
import ClientGen.Proofs.DataTypes.Worklist
import ClientGen.Proofs.Document.Lexing
import ClientGen.Proofs.Document.Literals
import ClientGen.Proofs.Document.Names
import ClientGen.Proofs.Document.Phrases
import ClientGen.Proofs.Document.Reading
import ClientGen.Proofs.Emission.Below
import ClientGen.Proofs.Emission.Covered
import ClientGen.Proofs.Emission.Inner
import ClientGen.Proofs.Emission.Links
import ClientGen.Proofs.Emission.MethodNames
import ClientGen.Proofs.Emission.Requested
import ClientGen.Proofs.Emission.Returned
import ClientGen.Proofs.Emission.Sound
import ClientGen.Proofs.Emission.Steps
import ClientGen.Proofs.Emission.Tame
import ClientGen.Proofs.Example.Entries
import ClientGen.Proofs.Example.Expansion
import ClientGen.Proofs.Example.Inlining
import ClientGen.Proofs.Example.Paths
import ClientGen.Proofs.Example.Positions
import ClientGen.Proofs.FieldFilter.Allowed
import ClientGen.Proofs.FieldFilter.Skipped
import ClientGen.Proofs.Generation.Asked
import ClientGen.Proofs.Generation.Chains
import ClientGen.Proofs.Generation.EntityTrees
import ClientGen.Proofs.Generation.Exclusion
import ClientGen.Proofs.Generation.Explained
import ClientGen.Proofs.Generation.Methods
import ClientGen.Proofs.Generation.Models
import ClientGen.Proofs.Generation.Packages
import ClientGen.Proofs.Generation.Plain
import ClientGen.Proofs.Generation.QueryParameters
import ClientGen.Proofs.Generation.Reachable
import ClientGen.Proofs.Generation.RootFields
import ClientGen.Proofs.Generation.Shared
import ClientGen.Proofs.Generation.Steps
import ClientGen.Proofs.Generation.Trees
import ClientGen.Proofs.Keys
import ClientGen.Proofs.Naming.Attributes
import ClientGen.Proofs.Naming.Dotless
import ClientGen.Proofs.Naming.Free
import ClientGen.Proofs.Naming.Identifiers
import ClientGen.Proofs.Naming.Members
import ClientGen.Proofs.Naming.ShortForms
import ClientGen.Proofs.Naming.SnakeCase
import ClientGen.Proofs.Options.Agreement
import ClientGen.Proofs.Options.Calls
import ClientGen.Proofs.Options.Flags
import ClientGen.Proofs.Options.Renaming
import ClientGen.Proofs.Render.Bindings
import ClientGen.Proofs.Render.Comments
import ClientGen.Proofs.Render.Descriptions
import ClientGen.Proofs.Render.Docstrings
import ClientGen.Proofs.Render.EnumModules
import ClientGen.Proofs.Render.Enums
import ClientGen.Proofs.Render.HintNames
import ClientGen.Proofs.Render.Layout
import ClientGen.Proofs.Render.Modules
import ClientGen.Proofs.Render.Paths
import ClientGen.Proofs.Render.Programs
import ClientGen.Proofs.Request.History
import ClientGen.Proofs.Request.Literals
import ClientGen.Proofs.Request.Mirrors
import ClientGen.Proofs.Request.RoundTrip
import ClientGen.Proofs.Request.Selections
import ClientGen.Proofs.Runs
import ClientGen.Proofs.Scalars.Paths
import ClientGen.Proofs.Schema.Order
import ClientGen.Proofs.Source.Expressions
import ClientGen.Proofs.Source.Lines
import ClientGen.Proofs.Source.Reads
import ClientGen.Proofs.Source.Statements
import ClientGen.Proofs.Source.Tokens
import ClientGen.Proofs.Text.Case
import ClientGen.Proofs.Text.Parts
import ClientGen.Proofs.Walk.Ending
import ClientGen.Proofs.Walk.Spine
import ClientGen.Render.Descriptions
import ClientGen.Render.Modules
import ClientGen.Render.Package
import ClientGen.Render.Signatures
import ClientGen.Request.Literal
import ClientGen.Request.Projection
import ClientGen.Request.Query
import ClientGen.Request.Selection
import ClientGen.Request.Value
import ClientGen.Scalars
import ClientGen.Schema.Assembly
import ClientGen.Schema.Basic
import ClientGen.Schema.Lookup
import ClientGen.Schema.Sources
import ClientGen.Schema.TypeFilter
import ClientGen.Source.Expression
import ClientGen.Source.FormatString
import ClientGen.Source.Pattern
import ClientGen.Source.Program
import ClientGen.Source.Scan
import ClientGen.Source.Statement
import ClientGen.Source.StringText
import ClientGen.Source.Token
import ClientGen.Text.Blank
import ClientGen.Text.Case
import ClientGen.Text.CaseTables
import ClientGen.Text.Identifier
import ClientGen.Text.JsonString
import ClientGen.Text.Letter
import ClientGen.Text.Printable
import ClientGen.Text.Quoted
import ClientGen.Text.Sorted
import ClientGen.Text.Split
import ClientGen.Text.Table
import ClientGen.TypeHint
