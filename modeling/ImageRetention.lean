import ImageRetention.Collection
import ImageRetention.Command
import ImageRetention.Command.Azure
import ImageRetention.Command.Git
import ImageRetention.CommandLine
import ImageRetention.CommandLine.Help
import ImageRetention.CommandLine.Parameter
import ImageRetention.CommandLine.Parser
import ImageRetention.Decimal.Binary64
import ImageRetention.Decimal.Shortest
import ImageRetention.Decoding
import ImageRetention.Environment
import ImageRetention.Environment.Block
import ImageRetention.Event
import ImageRetention.Failure
import ImageRetention.Failure.Report
import ImageRetention.FileTree
import ImageRetention.History
import ImageRetention.History.CommitList
import ImageRetention.History.Memory
import ImageRetention.History.Name
import ImageRetention.History.Repository
import ImageRetention.History.TreeListing
import ImageRetention.Host
import ImageRetention.Host.Line
import ImageRetention.Host.Word
import ImageRetention.Image
import ImageRetention.Image.Assignment
import ImageRetention.Image.Selection
import ImageRetention.Image.Target
import ImageRetention.Instant
import ImageRetention.Instant.Printer
import ImageRetention.Instant.Reader
import ImageRetention.Invocation
import ImageRetention.Json
import ImageRetention.Json.Number
import ImageRetention.Json.Printer
import ImageRetention.Json.Reader
import ImageRetention.LiveSet
import ImageRetention.LiveSet.Pool
import ImageRetention.Log.Entry
import ImageRetention.Log.Filter
import ImageRetention.Log.Line
import ImageRetention.Log.Pattern
import ImageRetention.Main
import ImageRetention.Manifest
import ImageRetention.Manifest.Listing
import ImageRetention.Manifest.Printer
import ImageRetention.Path
import ImageRetention.Path.Expansion
import ImageRetention.Program
import ImageRetention.Reading
import ImageRetention.Registry
import ImageRetention.Registry.Azure
import ImageRetention.Registry.Memory
import ImageRetention.Retention
import ImageRetention.RootFilter
import ImageRetention.Run
import ImageRetention.Settings
import ImageRetention.Settings.Document
import ImageRetention.Settings.Loading
import ImageRetention.SortedSet
import ImageRetention.Sweep
import ImageRetention.Text.Blank
import ImageRetention.Text.CodePoint
import ImageRetention.Text.Digits
import ImageRetention.Text.Lines
import ImageRetention.Text.Quoted
import ImageRetention.Text.Split
import ImageRetention.Text.Style
import ImageRetention.Text.Utf8
import ImageRetention.Toml
import ImageRetention.Toml.Description
import ImageRetention.Toml.Reader
import ImageRetention.Toml.Scalar
import ImageRetention.Toml.Text
import ImageRetention.World
import ImageRetention.Proofs.Collection.Deletions
import ImageRetention.Proofs.Collection.Digests
import ImageRetention.Proofs.Collection.Progress
import ImageRetention.Proofs.Collection.Reports
import ImageRetention.Proofs.Collection.Resumption
import ImageRetention.Proofs.Command.Git
import ImageRetention.Proofs.CommandLine.Entries
import ImageRetention.Proofs.CommandLine.Groups
import ImageRetention.Proofs.Decoding
import ImageRetention.Proofs.Failure.Report
import ImageRetention.Proofs.FileTree
import ImageRetention.Proofs.FirstFault
import ImageRetention.Proofs.History.Asking
import ImageRetention.Proofs.History.Building
import ImageRetention.Proofs.History.Chronicle
import ImageRetention.Proofs.History.Listing
import ImageRetention.Proofs.History.Repository
import ImageRetention.Proofs.History.RootFilter
import ImageRetention.Proofs.Host
import ImageRetention.Proofs.Image.LineEnds
import ImageRetention.Proofs.Image.Scan
import ImageRetention.Proofs.Image.Selection
import ImageRetention.Proofs.Instant.Calendar
import ImageRetention.Proofs.Instant.RoundTrip
import ImageRetention.Proofs.Instant.Span
import ImageRetention.Proofs.Json.Grammar
import ImageRetention.Proofs.Json.Printing
import ImageRetention.Proofs.Json.Reading
import ImageRetention.Proofs.Json.Tokens
import ImageRetention.Proofs.LiveSet.Calls
import ImageRetention.Proofs.LiveSet.Course
import ImageRetention.Proofs.LiveSet.Images
import ImageRetention.Proofs.LiveSet.Interleaving
import ImageRetention.Proofs.LiveSet.Meaning
import ImageRetention.Proofs.LiveSet.Moves
import ImageRetention.Proofs.LiveSet.OwnTag
import ImageRetention.Proofs.LiveSet.Pool
import ImageRetention.Proofs.LiveSet.Selection
import ImageRetention.Proofs.LiveSet.Traced
import ImageRetention.Proofs.LiveSet.Union
import ImageRetention.Proofs.LiveSet.Visits
import ImageRetention.Proofs.Manifest.Entry
import ImageRetention.Proofs.Manifest.Listing
import ImageRetention.Proofs.Manifest.Members
import ImageRetention.Proofs.Manifest.RoundTrip
import ImageRetention.Proofs.Observer
import ImageRetention.Proofs.Path.Expansion
import ImageRetention.Proofs.Path.Home
import ImageRetention.Proofs.Registry.Azure
import ImageRetention.Proofs.Retention.Age
import ImageRetention.Proofs.Retention.MinAge
import ImageRetention.Proofs.Settings.Document
import ImageRetention.Proofs.Settings.Loading
import ImageRetention.Proofs.Sweep.Anatomy
import ImageRetention.Proofs.Sweep.Blame
import ImageRetention.Proofs.Sweep.Order
import ImageRetention.Proofs.Sweep.Safety
import ImageRetention.Proofs.Text.ByteOrder
import ImageRetention.Proofs.Text.Digits
import ImageRetention.Proofs.Text.Lines
import ImageRetention.Proofs.Text.Piece
import ImageRetention.Proofs.Text.Printed
import ImageRetention.Proofs.Text.Utf8
import ImageRetention.Proofs.World.Call
import ImageRetention.Proofs.World.Quiet
import ImageRetention.Proofs.World.Transcript
