import EntityAtlas.Calendar
import EntityAtlas.CommandLine.Arguments
import EntityAtlas.CommandLine.Command
import EntityAtlas.CommandLine.Program
import EntityAtlas.CommandLine.World
import EntityAtlas.Decimal.Binary
import EntityAtlas.Decimal.Fixed
import EntityAtlas.Decimal.Shortest
import EntityAtlas.Document.Access
import EntityAtlas.Document.Basic
import EntityAtlas.Document.Indented
import EntityAtlas.Document.Interchange
import EntityAtlas.Document.Literal
import EntityAtlas.Entity.Association
import EntityAtlas.Entity.Declaration
import EntityAtlas.Entity.Formats
import EntityAtlas.Entity.LoadError
import EntityAtlas.Entity.Snapshot
import EntityAtlas.Execution.Executor
import EntityAtlas.Execution.Guard
import EntityAtlas.Execution.Memory
import EntityAtlas.Execution.Timeout
import EntityAtlas.Graph.Basic
import EntityAtlas.Graph.Ranking
import EntityAtlas.Graph.Route
import EntityAtlas.Graph.Scalar
import EntityAtlas.Journal
import EntityAtlas.Journal.Output
import EntityAtlas.Journal.Timestamp
import EntityAtlas.Main
import EntityAtlas.Markup.Conversion
import EntityAtlas.Markup.Reader
import EntityAtlas.Markup.Scalar
import EntityAtlas.Metric.Error
import EntityAtlas.Metric.Instruction
import EntityAtlas.Metric.Planner
import EntityAtlas.Metric.Query
import EntityAtlas.Metric.Result
import EntityAtlas.Proofs.Counts
import EntityAtlas.Proofs.Entity.Declared
import EntityAtlas.Proofs.Entity.Files
import EntityAtlas.Proofs.Entity.Guarantees
import EntityAtlas.Proofs.Entity.Lossless
import EntityAtlas.Proofs.Entity.RepeatedNames
import EntityAtlas.Proofs.Execution.Calls
import EntityAtlas.Proofs.FirstOccurrence
import EntityAtlas.Proofs.Graph.Edges
import EntityAtlas.Proofs.Graph.Existing
import EntityAtlas.Proofs.Graph.Picks
import EntityAtlas.Proofs.Graph.References
import EntityAtlas.Proofs.Graph.Resolve
import EntityAtlas.Proofs.Graph.Search
import EntityAtlas.Proofs.Markup.Conversions
import EntityAtlas.Proofs.Markup.Reading
import EntityAtlas.Proofs.Metric.ChosenEdges
import EntityAtlas.Proofs.Metric.Course
import EntityAtlas.Proofs.Metric.ExistingTables
import EntityAtlas.Proofs.Metric.Expansion
import EntityAtlas.Proofs.Metric.JoinablePivots
import EntityAtlas.Proofs.Metric.JoinedPaths
import EntityAtlas.Proofs.Metric.LooseJoins
import EntityAtlas.Proofs.Metric.Refusals
import EntityAtlas.Proofs.Metric.SuppliedGraph
import EntityAtlas.Proofs.Ranking.Convergence
import EntityAtlas.Proofs.Ranking.Distribution
import EntityAtlas.Proofs.Ranking.EdgeShares
import EntityAtlas.Proofs.Ranking.Referenced
import EntityAtlas.Proofs.Request.FailureEvents
import EntityAtlas.Proofs.Request.Frames
import EntityAtlas.Proofs.Request.JoinPaths
import EntityAtlas.Proofs.Request.Listing
import EntityAtlas.Proofs.Request.Rearrangement
import EntityAtlas.Proofs.Request.ReferencedFirst
import EntityAtlas.Proofs.Request.Totals
import EntityAtlas.Proofs.Sql.Agreement
import EntityAtlas.Proofs.Sql.CountColumn
import EntityAtlas.Proofs.Sql.CountedOnce
import EntityAtlas.Proofs.Sql.Evaluation
import EntityAtlas.Proofs.Sql.GroupedCount
import EntityAtlas.Proofs.Sql.MetadataNames
import EntityAtlas.Proofs.Sql.PivotCounts
import EntityAtlas.Proofs.Sql.Scoping
import EntityAtlas.Proofs.Sql.Tuples
import EntityAtlas.Proofs.Sql.ZeroFill
import EntityAtlas.Proofs.Table
import EntityAtlas.Proofs.Validation.Models
import EntityAtlas.Registry.Basic
import EntityAtlas.Registry.Import
import EntityAtlas.Registry.Join
import EntityAtlas.Registry.MappingError
import EntityAtlas.Registry.Reflection
import EntityAtlas.Request.Agent
import EntityAtlas.Request.Metrics
import EntityAtlas.Request.Path
import EntityAtlas.Request.Provider
import EntityAtlas.Request.Reflected
import EntityAtlas.Request.Schema
import EntityAtlas.Request.Wiring
import EntityAtlas.Settings.Basic
import EntityAtlas.Settings.Source
import EntityAtlas.Sql.Database
import EntityAtlas.Sql.Dialect
import EntityAtlas.Sql.Evaluate
import EntityAtlas.Sql.Location
import EntityAtlas.Sql.Render
import EntityAtlas.Sql.Statement
import EntityAtlas.Sql.Stored
import EntityAtlas.Table
import EntityAtlas.Terminal.Grid
import EntityAtlas.Terminal.Styled
import EntityAtlas.Terminal.Width
import EntityAtlas.Text.Blank
import EntityAtlas.Text.Case
import EntityAtlas.Text.Letters
import EntityAtlas.Text.Order
import EntityAtlas.Text.Quoted
import EntityAtlas.Text.Unprintable
import EntityAtlas.Validation.Checked
import EntityAtlas.Validation.Detail
import EntityAtlas.Validation.Format
import EntityAtlas.Validation.Issue
import EntityAtlas.Validation.Scalar
