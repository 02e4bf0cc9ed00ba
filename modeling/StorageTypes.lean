import StorageTypes.Cli.Arguments
import StorageTypes.Cli.Disk
import StorageTypes.Cli.Output
import StorageTypes.Cli.Run
import StorageTypes.Cli.Session
import StorageTypes.Decimal.Binary64
import StorageTypes.Decimal.Numeral
import StorageTypes.Decimal.Rounding
import StorageTypes.Decimal.Shortest
import StorageTypes.Dictionary
import StorageTypes.Generation.Batch
import StorageTypes.Generation.Declaration
import StorageTypes.Generation.Import
import StorageTypes.Generation.Member
import StorageTypes.Generation.Options
import StorageTypes.Generation.Request
import StorageTypes.Generation.TypeMap
import StorageTypes.Generation.TypeMapping
import StorageTypes.ImportPath.Fault
import StorageTypes.ImportPath.Layout
import StorageTypes.ImportPath.Template
import StorageTypes.Json.Printer
import StorageTypes.Json.Reader
import StorageTypes.Json.Value
import StorageTypes.Log
import StorageTypes.Main
import StorageTypes.Proofs.Batches
import StorageTypes.Proofs.Definitions
import StorageTypes.Proofs.Dictionary
import StorageTypes.Proofs.Finishing
import StorageTypes.Proofs.Header
import StorageTypes.Proofs.History
import StorageTypes.Proofs.Imports
import StorageTypes.Proofs.Loading
import StorageTypes.Proofs.Members
import StorageTypes.Proofs.Results
import StorageTypes.Registry.Basic
import StorageTypes.Registry.Change
import StorageTypes.Registry.Derived
import StorageTypes.Registry.Summary
import StorageTypes.Schema.Basic
import StorageTypes.Schema.Definition
import StorageTypes.Schema.Failure
import StorageTypes.Schema.Issue
import StorageTypes.Schema.Model
import StorageTypes.Terminal.Markup
import StorageTypes.Terminal.Panel
import StorageTypes.Terminal.Table
import StorageTypes.Terminal.Tree
import StorageTypes.Terminal.Wrap
import StorageTypes.Text.Blank
import StorageTypes.Text.Digit
import StorageTypes.Text.Lines
import StorageTypes.Text.Plural
import StorageTypes.Text.Printable
import StorageTypes.Text.Quoted
import StorageTypes.Text.Uppercase
import StorageTypes.Text.Width
import StorageTypes.Proofs.Separation
import StorageTypes.Proofs.Resolution
import StorageTypes.Proofs.KeyTypes
import StorageTypes.Proofs.Duality
import StorageTypes.Proofs.Registration
import StorageTypes.Proofs.Attribution
import StorageTypes.Proofs.Rearrangement
import StorageTypes.Proofs.TypeNames
import StorageTypes.Proofs.Checks
import StorageTypes.Proofs.Models
import StorageTypes.Proofs.Readings
import StorageTypes.Proofs.Completion
import StorageTypes.Proofs.Refusals
import StorageTypes.Proofs.Files
import StorageTypes.Proofs.Command
import StorageTypes.Proofs.TypeTexts
import StorageTypes.Proofs.Reruns
import StorageTypes.Proofs.Skipping
import StorageTypes.Proofs.Overriding
import StorageTypes.Proofs.Paragraphs
import StorageTypes.Proofs.TypeMappings
import StorageTypes.Proofs.Clauses
import StorageTypes.Proofs.Sessions
import StorageTypes.Proofs.MemberNames
import StorageTypes.Proofs.Plurals
import StorageTypes.Proofs.Templates
import StorageTypes.Proofs.Nesting
import StorageTypes.Proofs.Alignment
import StorageTypes.Proofs.Layouts
import StorageTypes.Proofs.Variation
import StorageTypes.Proofs.Resolvers
import StorageTypes.Proofs.Indentation
