import ExactCover.Arena.Basic
import ExactCover.Arena.Cover
import ExactCover.Arena.Link
import ExactCover.Arena.Ring
import ExactCover.Arena.Splice
import ExactCover.CommandLine.Modes
import ExactCover.CommandLine.Options
import ExactCover.CommandLine.Run
import ExactCover.CommandLine.SelfTest
import ExactCover.CommandLine.Switch
import ExactCover.CommandLine.Usage
import ExactCover.Configuration.Apply
import ExactCover.Configuration.Basic
import ExactCover.Entries
import ExactCover.Experiment.Entry
import ExactCover.Experiment.Progress
import ExactCover.Experiment.Runs
import ExactCover.Experiment.Suite
import ExactCover.Failure
import ExactCover.Json.Fault
import ExactCover.Json.Reader
import ExactCover.Json.Writer
import ExactCover.Main
import ExactCover.Matrix.Choice
import ExactCover.Matrix.Cover
import ExactCover.Matrix.File
import ExactCover.Matrix.Grid
import ExactCover.Matrix.Kind
import ExactCover.Matrix.Problem
import ExactCover.Number.Compare
import ExactCover.Number.Double
import ExactCover.Number.Places
import ExactCover.Number.Reader
import ExactCover.Number.Shortest
import ExactCover.Proofs.Arena.Thread
import ExactCover.Proofs.Arena.Walk
import ExactCover.Proofs.Arena.Web
import ExactCover.Proofs.Layout.Basic
import ExactCover.Proofs.Layout.Cover
import ExactCover.Proofs.Layout.Web
import ExactCover.Queens.Board
import ExactCover.Queens.Problem
import ExactCover.Queens.Square
import ExactCover.Random.Twister
import ExactCover.Report.Charts
import ExactCover.Report.Csv
import ExactCover.Report.Rows
import ExactCover.Report.Table
import ExactCover.Session
import ExactCover.Settings
import ExactCover.Solver.Cursor
import ExactCover.Solver.Display
import ExactCover.Solver.Problem
import ExactCover.Solver.Sampling
import ExactCover.Solver.Search
import ExactCover.Statistics.Sum
import ExactCover.Statistics.Summary
import ExactCover.Storage.Address
import ExactCover.Storage.Lookup
import ExactCover.Storage.Packing
import ExactCover.Storage.Path
import ExactCover.Storage.Tree
import ExactCover.Text.Blank
import ExactCover.Text.Digit
import ExactCover.Text.Half
import ExactCover.Text.Integer
import ExactCover.Text.Lines
import ExactCover.Text.Printable
import ExactCover.Text.Quoted
import ExactCover.Value.Access
import ExactCover.Value.Basic
import ExactCover.Value.Display
import ExactCover.Value.Key
import ExactCover.Value.Mismatch
import ExactCover.Value.Number
import ExactCover.Value.Shape
import ExactCover.Proofs.Layout.Trail
import ExactCover.Proofs.Layout.Reading
import ExactCover.Proofs.Search.AlgorithmX
import ExactCover.Proofs.Search.Runs
import ExactCover.Proofs.Search.Completion
import ExactCover.Proofs.Search.Simulation
import ExactCover.Proofs.Search.Decisions
import ExactCover.Proofs.Build.Frame
import ExactCover.Proofs.Build.Steps
import ExactCover.Proofs.Search.Enumeration
import ExactCover.Proofs.Build.Plan
import ExactCover.Proofs.Search.Selection
import ExactCover.Proofs.Build.Columns
import ExactCover.Proofs.Matrix.Building
import ExactCover.Proofs.Matrix.Covers
import ExactCover.Proofs.Queens.Building
import ExactCover.Proofs.Queens.Attacks
import ExactCover.Proofs.Queens.Boards
import ExactCover.Proofs.Cover.Nesting
import ExactCover.Proofs.Cover.Walks
import ExactCover.Proofs.Search.Resumption
import ExactCover.Proofs.Search.Drawing
import ExactCover.Proofs.Search.Sampling
import ExactCover.Proofs.Search.Replay
import ExactCover.Proofs.Search.Collecting
import ExactCover.Proofs.Search.Order
import ExactCover.Proofs.Search.Sources
import ExactCover.Proofs.Search.Trying
import ExactCover.Proofs.Search.Exhaustion
import ExactCover.Proofs.Search.Extension
import ExactCover.Proofs.Queens.Squares
import ExactCover.Proofs.Queens.Forced
import ExactCover.Proofs.CommandLine.Printing
import ExactCover.Proofs.Search.Dictation
import ExactCover.Proofs.Search.Lockstep
import ExactCover.Proofs.Queens.Counting
import ExactCover.Proofs.Queens.Checks
import ExactCover.Proofs.Search.Histories
import ExactCover.Proofs.Search.Cleanness
import ExactCover.Proofs.Search.Progress
import ExactCover.Proofs.Search.Updates
import ExactCover.Proofs.Queens.Draws
import ExactCover.Proofs.Search.Increase
import ExactCover.Proofs.Build.Names
import ExactCover.Proofs.Build.Placing
import ExactCover.Proofs.Queens.Ranks
import ExactCover.Proofs.Queens.Pairs
import ExactCover.Proofs.Build.ReadingBack
import ExactCover.Proofs.Matrix.ReadingBack
import ExactCover.Proofs.Queens.Lines
import ExactCover.Proofs.Queens.Agreement
import ExactCover.Proofs.Cover.Expense
import ExactCover.Proofs.Search.Permanence
import ExactCover.Proofs.Text.Numerals
import ExactCover.Proofs.Configuration.Documents
import ExactCover.Proofs.Configuration.ForcedSquares
import ExactCover.Proofs.Text.Parts
import ExactCover.Proofs.Queens.SquareTexts
import ExactCover.Proofs.Configuration.Edits
import ExactCover.Proofs.Json.Names
import ExactCover.Proofs.Configuration.Malformed
import ExactCover.Proofs.CommandLine.Storing
import ExactCover.Proofs.Experiment.Bundles
import ExactCover.Proofs.Experiment.Summaries
import ExactCover.Proofs.Report.PlainTexts
import ExactCover.Proofs.Report.Tables
import ExactCover.Proofs.Report.Cells
import ExactCover.Proofs.Report.Exports
import ExactCover.Proofs.Entries
import ExactCover.Proofs.Session
