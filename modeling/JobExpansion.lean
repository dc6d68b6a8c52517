import JobExpansion.Command.Arguments
import JobExpansion.Command.Run
import JobExpansion.Command.Session
import JobExpansion.Decimal.Binary64
import JobExpansion.Decimal.Layout
import JobExpansion.Decimal.Shortest
import JobExpansion.Environment
import JobExpansion.Expansion.Apps
import JobExpansion.Expansion.Chunks
import JobExpansion.Expansion.Fields
import JobExpansion.Expansion.Options
import JobExpansion.Expansion.Pageload
import JobExpansion.Expansion.Pipeline
import JobExpansion.Expansion.Profile
import JobExpansion.Expansion.Remarks
import JobExpansion.Expansion.Settings
import JobExpansion.Expansion.Stage
import JobExpansion.Failure.Cause
import JobExpansion.Failure.Problem
import JobExpansion.Failure.Report
import JobExpansion.Files.Path
import JobExpansion.Files.Tree
import JobExpansion.Job.Fields
import JobExpansion.Job.Record
import JobExpansion.Job.Schema
import JobExpansion.Job.Shape
import JobExpansion.Job.Symbol
import JobExpansion.Keyed.Basic
import JobExpansion.Keyed.Resolution
import JobExpansion.Kind.Document
import JobExpansion.Kind.File
import JobExpansion.Kind.Merge
import JobExpansion.Log.Console
import JobExpansion.Log.Directive
import JobExpansion.Log.Filter
import JobExpansion.Log.Level
import JobExpansion.Log.Remark
import JobExpansion.Log.Settings
import JobExpansion.Log.Sinks
import JobExpansion.Main
import JobExpansion.Parameters.Basic
import JobExpansion.Parameters.Document
import JobExpansion.Parameters.Loading
import JobExpansion.Pattern.Anchored
import JobExpansion.Pattern.Class
import JobExpansion.Pattern.Matching
import JobExpansion.Pattern.Reader
import JobExpansion.Pattern.Syntax
import JobExpansion.Pattern.Weight
import JobExpansion.Text.Age
import JobExpansion.Text.Blank
import JobExpansion.Text.Case
import JobExpansion.Text.Category
import JobExpansion.Text.Property
import JobExpansion.Text.Quoted
import JobExpansion.Text.Runs
import JobExpansion.Text.Script
import JobExpansion.Text.Search
import JobExpansion.Toml.Atom
import JobExpansion.Toml.Basic
import JobExpansion.Toml.Document
import JobExpansion.Toml.Quoted
import JobExpansion.Toml.Table
import JobExpansion.Value.Basic
import JobExpansion.Value.Format
import JobExpansion.Value.Json
import JobExpansion.Value.Path
import JobExpansion.Yaml.Cursor
import JobExpansion.Yaml.Document
import JobExpansion.Yaml.Node
import JobExpansion.Yaml.Printer
import JobExpansion.Yaml.Resolution
import JobExpansion.Yaml.Style
import JobExpansion.Yaml.Token.Basic
import JobExpansion.Yaml.Token.Lexer
import JobExpansion.Yaml.Token.Scalar
import JobExpansion.Proofs.Keyed.Depth
import JobExpansion.Proofs.Outcome
import JobExpansion.Proofs.Schema.WellKeyed
import JobExpansion.Proofs.Schema.Soundness
import JobExpansion.Proofs.Job.Edits
import JobExpansion.Proofs.Job.Identity
import JobExpansion.Proofs.Job.Edited
import JobExpansion.Proofs.Schema.Kept
import JobExpansion.Proofs.Expansion.Ready
import JobExpansion.Proofs.Expansion.Runs
import JobExpansion.Proofs.Expansion.Branches
import JobExpansion.Proofs.Expansion.Footprint
import JobExpansion.Proofs.Expansion.Fans
import JobExpansion.Proofs.Expansion.Nested
import JobExpansion.Proofs.Expansion.Failures
import JobExpansion.Proofs.Expansion.Options
import JobExpansion.Proofs.Expansion.Cold
import JobExpansion.Proofs.Expansion.Independence
import JobExpansion.Proofs.Expansion.Trace
import JobExpansion.Proofs.Expansion.Consumed
import JobExpansion.Proofs.Expansion.Settled
import JobExpansion.Proofs.Expansion.Frame
import JobExpansion.Proofs.Expansion.Projects
import JobExpansion.Proofs.Expansion.Identities
import JobExpansion.Proofs.Expansion.Symbols
import JobExpansion.Proofs.Text.Segments
import JobExpansion.Proofs.Expansion.Choices
import JobExpansion.Proofs.Expansion.Names
import JobExpansion.Proofs.Keyed.Choice
import JobExpansion.Proofs.Keyed.Order
import JobExpansion.Proofs.Pattern.Whole
import JobExpansion.Proofs.Keyed.Fallback
import JobExpansion.Proofs.Command.Sessions
import JobExpansion.Proofs.Command.Transcripts
import JobExpansion.Proofs.Text.Parts
import JobExpansion.Proofs.Pattern.Reading
import JobExpansion.Proofs.Pattern.Escapes
import JobExpansion.Proofs.Pattern.Classes
import JobExpansion.Proofs.Pattern.Groups
import JobExpansion.Proofs.Pattern.Steps
import JobExpansion.Proofs.Keyed.Anchored
import JobExpansion.Proofs.Value.Paths
import JobExpansion.Proofs.Keyed.InPlace
import JobExpansion.Proofs.Expansion.FieldOrder
import JobExpansion.Proofs.Kind.Merged
import JobExpansion.Proofs.Kind.KeyedDefaults
import JobExpansion.Proofs.Job.RoundTrip
import JobExpansion.Proofs.Text.Ends
import JobExpansion.Proofs.Expansion.TryNames
import JobExpansion.Proofs.Schema.FirstFault
import JobExpansion.Proofs.Expansion.Accounts
import JobExpansion.Proofs.Kind.Forms
import JobExpansion.Proofs.Job.Changes
