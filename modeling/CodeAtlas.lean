import CodeAtlas.Build.Basic
import CodeAtlas.Build.Batch
import CodeAtlas.Build.Calls
import CodeAtlas.Collect
import CodeAtlas.Command.Arguments
import CodeAtlas.Command.Display
import CodeAtlas.Command.Page
import CodeAtlas.Command.Paint
import CodeAtlas.Command.Run
import CodeAtlas.Command.Switch
import CodeAtlas.Config.Basic
import CodeAtlas.Config.Reader
import CodeAtlas.Decimal.Binary64
import CodeAtlas.Decimal.Fixed
import CodeAtlas.Decimal.Layout
import CodeAtlas.Decimal.Shortest
import CodeAtlas.Error
import CodeAtlas.FileSystem.Basic
import CodeAtlas.FileSystem.Disk
import CodeAtlas.Finding.Basic
import CodeAtlas.Finding.Document
import CodeAtlas.Finding.Record
import CodeAtlas.Finding.Store
import CodeAtlas.Graph.Basic
import CodeAtlas.Graph.Chain
import CodeAtlas.Graph.Counts
import CodeAtlas.Graph.Cycle
import CodeAtlas.Graph.Document
import CodeAtlas.Graph.Heap
import CodeAtlas.Graph.Index
import CodeAtlas.Graph.Neighbours
import CodeAtlas.Graph.Node
import CodeAtlas.Graph.Ranking
import CodeAtlas.Graph.Reach
import CodeAtlas.Instant
import CodeAtlas.Json.Basic
import CodeAtlas.Json.Number
import CodeAtlas.Json.Outline
import CodeAtlas.Json.Printer
import CodeAtlas.Json.Reader
import CodeAtlas.Json.Record
import CodeAtlas.Main
import CodeAtlas.Mismatch
import CodeAtlas.Path
import CodeAtlas.Query.Answer
import CodeAtlas.Query.Candidate
import CodeAtlas.Query.Grammar
import CodeAtlas.Query.Intent
import CodeAtlas.Query.Keywords
import CodeAtlas.Query.Phrase
import CodeAtlas.Query.Preview
import CodeAtlas.Query.Respond
import CodeAtlas.Session
import CodeAtlas.Text.Alphabetic
import CodeAtlas.Text.Blank
import CodeAtlas.Text.Casing
import CodeAtlas.Text.Changes
import CodeAtlas.Text.Hidden
import CodeAtlas.Text.Lowercase
import CodeAtlas.Text.Numeric
import CodeAtlas.Text.Quoted
import CodeAtlas.Text.Uppercase
import CodeAtlas.Workspace
import CodeAtlas.Yaml.Mark
import CodeAtlas.Yaml.Outline
import CodeAtlas.Yaml.Printer
import CodeAtlas.Yaml.Record
import CodeAtlas.Yaml.Resolve
import CodeAtlas.Yaml.Scalar
import CodeAtlas.Yaml.Tag
import CodeAtlas.Yaml.Token
import CodeAtlas.Proofs.Graph.Listing
import CodeAtlas.Proofs.Cycle.Stack
import CodeAtlas.Proofs.Cycle.Completeness
import CodeAtlas.Proofs.Cycle.Repeats
import CodeAtlas.Proofs.Graph.Distance
import CodeAtlas.Proofs.Build.Layers
import CodeAtlas.Proofs.Build.Accounting
import CodeAtlas.Proofs.Build.Definitions
import CodeAtlas.Proofs.Query.WellFormed
import CodeAtlas.Proofs.Query.Parsing
import CodeAtlas.Proofs.Json.RoundTrip
import CodeAtlas.Proofs.Query.Enrichment
import CodeAtlas.Proofs.Finding.RoundTrip
import CodeAtlas.Proofs.Graph.Snapshot
import CodeAtlas.Proofs.Json.Rearrangement
import CodeAtlas.Proofs.Finding.Rearrangement
import CodeAtlas.Proofs.Collect.Contributions
import CodeAtlas.Proofs.Collect.Degradation
import CodeAtlas.Proofs.Collect.Exchange
import CodeAtlas.Proofs.Json.Grammar
import CodeAtlas.Proofs.Session.Isolation
import CodeAtlas.Proofs.Command.Output
import CodeAtlas.Proofs.Graph.AffectedFiles
import CodeAtlas.Proofs.Graph.BestFirst
import CodeAtlas.Proofs.Build.Batches
import CodeAtlas.Proofs.Build.Callees
import CodeAtlas.Proofs.Build.Suffixes
import CodeAtlas.Proofs.Build.NodeCounts
import CodeAtlas.Proofs.Query.Usage
import CodeAtlas.Proofs.Query.Reported
import CodeAtlas.Proofs.Decimal.TotalOrder
import CodeAtlas.Proofs.Graph.Rankings
import CodeAtlas.Proofs.Graph.Neighbourhoods
import CodeAtlas.Proofs.Graph.OwnPaths
import CodeAtlas.Proofs.Cycle.Rotations
import CodeAtlas.Proofs.Query.Targets
import CodeAtlas.Proofs.Query.LetterCase
import CodeAtlas.Proofs.Query.Planning
import CodeAtlas.Proofs.Query.QuotedNames
import CodeAtlas.Proofs.Query.Introducers
import CodeAtlas.Proofs.Command.SameReach
import CodeAtlas.Proofs.Graph.UnknownEnds
import CodeAtlas.Proofs.Config.Choices
import CodeAtlas.Proofs.Workspace.Initialisation
import CodeAtlas.Proofs.Workspace.FindingsDirectory
import CodeAtlas.Proofs.Cycle.Exhaustion
