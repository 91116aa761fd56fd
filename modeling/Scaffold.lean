import Scaffold.Artifact.Basic
import Scaffold.Artifact.Fragment
import Scaffold.Artifact.Produce
import Scaffold.Artifact.Render
import Scaffold.Calendar
import Scaffold.CommandLine.Choices
import Scaffold.CommandLine.Help
import Scaffold.CommandLine.Run
import Scaffold.CommandLine.Switch
import Scaffold.CommandLine.Word
import Scaffold.Decimal.Binary
import Scaffold.Decimal.Fixed
import Scaffold.Decimal.Shortest
import Scaffold.Dependency
import Scaffold.Digest.Sha256
import Scaffold.Export.Basic
import Scaffold.Export.Manifest
import Scaffold.Fault
import Scaffold.Files.Draft
import Scaffold.Files.Path
import Scaffold.Files.Problem
import Scaffold.Files.Tree
import Scaffold.Generator.Basic
import Scaffold.Hydration.Block
import Scaffold.Hydration.Rule
import Scaffold.Journal
import Scaffold.Main
import Scaffold.Markup.Json
import Scaffold.Markup.Number
import Scaffold.Markup.Yaml.Kind
import Scaffold.Markup.Yaml.Node
import Scaffold.Markup.Yaml.Read
import Scaffold.Markup.Yaml.Scalar
import Scaffold.Markup.Yaml.Token
import Scaffold.Naming
import Scaffold.Plan.Basic
import Scaffold.Plan.Build
import Scaffold.Plan.Record
import Scaffold.Proofs.Files.Growth
import Scaffold.Proofs.Files.Lookup
import Scaffold.Report.Basic
import Scaffold.Report.Stopwatch
import Scaffold.Schema.Files
import Scaffold.Schema.Reader
import Scaffold.Schema.Reason
import Scaffold.Schema.Record
import Scaffold.Schema.Scan
import Scaffold.Schema.Table
import Scaffold.Settings.Basic
import Scaffold.Settings.Source
import Scaffold.Sql
import Scaffold.Stub.Name
import Scaffold.Stub.Packaged
import Scaffold.Stub.Shelf
import Scaffold.Stub.Template
import Scaffold.Text.Base64
import Scaffold.Text.Blank
import Scaffold.Text.Case
import Scaffold.Text.CaseTable
import Scaffold.Text.CasedTable
import Scaffold.Text.Count
import Scaffold.Text.Digit
import Scaffold.Text.PrintableTable
import Scaffold.Text.Quoted
import Scaffold.Text.Ranges
import Scaffold.Text.Utf8
import Scaffold.Text.Word
import Scaffold.Text.WordTable
import Scaffold.Validation.Field
import Scaffold.Validation.Issue
import Scaffold.Value
import Scaffold.Workspace
import Scaffold.Proofs.Export.Turn
import Scaffold.Proofs.Export.Accounting
import Scaffold.Proofs.Generator.Reading
import Scaffold.Proofs.Generator.Preparation
import Scaffold.Proofs.Files.Shape
import Scaffold.Proofs.Export.Overwriting
import Scaffold.Proofs.Generator.Exporting
import Scaffold.Proofs.Naming
import Scaffold.Proofs.Planning
import Scaffold.Proofs.Dependency
import Scaffold.Proofs.Generator.Faults
import Scaffold.Proofs.Generator.Returning
import Scaffold.Proofs.Schema.Clause
import Scaffold.Proofs.Schema.Keys
import Scaffold.Proofs.Schema.Comment
import Scaffold.Proofs.Schema.Columns
import Scaffold.Proofs.Schema.KeyLines
import Scaffold.Proofs.Schema.TableHead
import Scaffold.Proofs.Schema.PieceLines
import Scaffold.Proofs.Schema.Remarks
import Scaffold.Proofs.Schema.Printing
import Scaffold.Proofs.Settings
import Scaffold.Proofs.Files.Beneath
import Scaffold.Proofs.Artifact.Placement
import Scaffold.Proofs.Files.Drafting
import Scaffold.Proofs.Export.Clean
import Scaffold.Proofs.Files.Persistence
import Scaffold.Proofs.Files.Refusal
import Scaffold.Proofs.Export.Afresh
import Scaffold.Proofs.Export.Idempotence
import Scaffold.Proofs.Plan.Building
import Scaffold.Proofs.Schema.Words
import Scaffold.Proofs.Schema.Surroundings
import Scaffold.Proofs.Schema.LineEnds
import Scaffold.Proofs.Schema.Refusals
import Scaffold.Proofs.Plan.Query
import Scaffold.Proofs.Hydration.Machine
import Scaffold.Proofs.Hydration.Agreement
import Scaffold.Proofs.Hydration.Folding
import Scaffold.Proofs.Artifact.Access
import Scaffold.Proofs.Artifact.Fragment
import Scaffold.Proofs.Artifact.Properties
import Scaffold.Proofs.Generator.Verdict
import Scaffold.Proofs.Export.Rehearsal
import Scaffold.Proofs.Export.Twins
import Scaffold.Proofs.Export.Ways
import Scaffold.Proofs.Plan.Quoting
import Scaffold.Proofs.Artifact.Confinement
import Scaffold.Proofs.Plan.Names
import Scaffold.Proofs.Stub.Substitution
import Scaffold.Proofs.Stub.Letters
import Scaffold.Proofs.Text.Alphabet
import Scaffold.Proofs.Artifact.Spelling
import Scaffold.Proofs.Artifact.Filled
import Scaffold.Proofs.Hydration.Lines
import Scaffold.Proofs.Artifact.Methods
import Scaffold.Proofs.Artifact.Actions
import Scaffold.Proofs.Artifact.Statements
import Scaffold.Proofs.Artifact.SoftDelete
import Scaffold.Proofs.Artifact.Declared
import Scaffold.Proofs.Artifact.Imports
import Scaffold.Proofs.Artifact.Linking
import Scaffold.Proofs.Hydration.Independence
import Scaffold.Proofs.Plan.Constraints
import Scaffold.Proofs.Plan.Lookups
import Scaffold.Proofs.Plan.Refusing
import Scaffold.Proofs.Schema.Remembering
import Scaffold.Proofs.Artifact.Keys
import Scaffold.Proofs.Artifact.Bodies
import Scaffold.Proofs.Artifact.Writing
import Scaffold.Proofs.Artifact.Grammar
import Scaffold.Proofs.Artifact.Binding
import Scaffold.Proofs.Export.Succession
import Scaffold.Proofs.Dependency.Status
import Scaffold.Proofs.Settings.Fields
import Scaffold.Proofs.Settings.Assigning
import Scaffold.Proofs.Settings.Assembling
import Scaffold.Proofs.Plan.Aliases
import Scaffold.Proofs.Artifact.FileNames
import Scaffold.Proofs.Artifact.Overriding
