import Wakeful.Child.Block
import Wakeful.Child.Environment
import Wakeful.Child.Launch
import Wakeful.Child.Parent
import Wakeful.Child.Search
import Wakeful.Child.Spawn
import Wakeful.Child.Standard
import Wakeful.Child.Status
import Wakeful.Client.Arguments
import Wakeful.Client.Exchange
import Wakeful.CommandLine.Command
import Wakeful.CommandLine.Ending
import Wakeful.CommandLine.Fault
import Wakeful.CommandLine.Reader
import Wakeful.Config.Basic
import Wakeful.Config.Inhibitor
import Wakeful.Config.Load
import Wakeful.Config.Schema
import Wakeful.Config.Setting
import Wakeful.Daemon.Answer
import Wakeful.Daemon.Arguments
import Wakeful.Daemon.Attendance
import Wakeful.Daemon.Bind
import Wakeful.Daemon.Conversation
import Wakeful.Daemon.Loop
import Wakeful.Daemon.Rivals
import Wakeful.Daemon.Serve
import Wakeful.Daemon.Session
import Wakeful.Daemon.Startup
import Wakeful.Daemon.Taking
import Wakeful.Decimal.Binary64
import Wakeful.Decimal.Shortest
import Wakeful.FileTree.Basic
import Wakeful.FileTree.Listing
import Wakeful.FileTree.Operations
import Wakeful.FileTree.Socket
import Wakeful.FileTree.Walk
import Wakeful.Glob.Pattern
import Wakeful.Glob.Search
import Wakeful.Glob.Way
import Wakeful.Inhibit.Bus
import Wakeful.Inhibit.Crowd
import Wakeful.Inhibit.Ensemble
import Wakeful.Inhibit.Error
import Wakeful.Inhibit.Event
import Wakeful.Inhibit.Inhibitor
import Wakeful.Inhibit.Moment
import Wakeful.Inhibit.Turn
import Wakeful.Inhibit.Vigil
import Wakeful.Inhibit.Watchdog
import Wakeful.Main
import Wakeful.Meter.Clock
import Wakeful.Meter.Cpu
import Wakeful.Meter.Timekeeping
import Wakeful.Meter.Word
import Wakeful.Path.Basic
import Wakeful.Path.Locations
import Wakeful.Proofs.Attempt
import Wakeful.Proofs.Child.Environment
import Wakeful.Proofs.Child.Inheritance
import Wakeful.Proofs.Child.Search
import Wakeful.Proofs.Config.Document
import Wakeful.Proofs.Config.Interval
import Wakeful.Proofs.Config.Reading
import Wakeful.Proofs.Config.Record
import Wakeful.Proofs.Config.Rows
import Wakeful.Proofs.Config.Settings
import Wakeful.Proofs.Daemon.Beginning
import Wakeful.Proofs.Daemon.Departure
import Wakeful.Proofs.Daemon.Exclusion
import Wakeful.Proofs.Daemon.OneBit
import Wakeful.Proofs.Daemon.Patience
import Wakeful.Proofs.Daemon.Replacement
import Wakeful.Proofs.Daemon.WorkingDirectory
import Wakeful.Proofs.FileTree.Approach
import Wakeful.Proofs.FileTree.Copy
import Wakeful.Proofs.FileTree.Creation
import Wakeful.Proofs.FileTree.Grounded
import Wakeful.Proofs.FileTree.Occupant
import Wakeful.Proofs.FileTree.Socket
import Wakeful.Proofs.FileTree.Upkeep
import Wakeful.Proofs.FileTree.Walk
import Wakeful.Proofs.FileTree.WellNamed
import Wakeful.Proofs.Glob.Pattern
import Wakeful.Proofs.Glob.Search
import Wakeful.Proofs.Glob.Single
import Wakeful.Proofs.Glob.Star
import Wakeful.Proofs.Glob.Way
import Wakeful.Proofs.Inhibit.Alternation
import Wakeful.Proofs.Inhibit.Change
import Wakeful.Proofs.Inhibit.Crowd
import Wakeful.Proofs.Inhibit.Event
import Wakeful.Proofs.Inhibit.Failure
import Wakeful.Proofs.Inhibit.Interleaving
import Wakeful.Proofs.Inhibit.Ledger
import Wakeful.Proofs.Inhibit.Orderly
import Wakeful.Proofs.Inhibit.OrderlyCaller
import Wakeful.Proofs.Inhibit.Pacing
import Wakeful.Proofs.Inhibit.Serial
import Wakeful.Proofs.Inhibit.Task
import Wakeful.Proofs.Inhibit.Thread
import Wakeful.Proofs.Inhibit.Turn
import Wakeful.Proofs.Inhibit.Turnwise
import Wakeful.Proofs.Inhibit.Vigil
import Wakeful.Proofs.Meter.Baseline
import Wakeful.Proofs.Meter.Course
import Wakeful.Proofs.Meter.Timekeeping
import Wakeful.Proofs.Path.Display
import Wakeful.Proofs.Path.Names
import Wakeful.Proofs.SharedLibrary.Name
import Wakeful.Proofs.Text.Boundary
import Wakeful.Proofs.Text.Order
import Wakeful.Proofs.Text.Utf8
import Wakeful.Proofs.Toml.Bounds
import Wakeful.Proofs.Toml.Composition
import Wakeful.Proofs.Toml.Distinct
import Wakeful.Proofs.Toml.Plain
import Wakeful.Proofs.Toml.Spelling
import Wakeful.Proofs.Wire.Delimited
import Wakeful.Proofs.Wire.RoundTrip
import Wakeful.Proofs.Wire.Shortest
import Wakeful.SharedLibrary.General
import Wakeful.SharedLibrary.Header
import Wakeful.SharedLibrary.Mathematical
import Wakeful.SharedLibrary.Name
import Wakeful.SharedLibrary.Names
import Wakeful.SharedLibrary.Open
import Wakeful.SharedLibrary.Standard
import Wakeful.Shell.Comparison
import Wakeful.Shell.Condition
import Wakeful.Shell.Differences
import Wakeful.Shell.Edit.Command
import Wakeful.Shell.Edit.Reader
import Wakeful.Shell.Edit.State
import Wakeful.Shell.Fields
import Wakeful.Shell.Format
import Wakeful.Shell.Image
import Wakeful.Shell.Letters
import Wakeful.Shell.Own
import Wakeful.Shell.Pattern
import Wakeful.Shell.Program
import Wakeful.Shell.Quoting
import Wakeful.Shell.Reader
import Wakeful.Shell.Regex
import Wakeful.Shell.Run
import Wakeful.Shell.Script
import Wakeful.Shell.Signal
import Wakeful.Shell.Spelled
import Wakeful.Shell.State
import Wakeful.Shell.Sum
import Wakeful.Shell.Task
import Wakeful.Shell.Tool.Calendar
import Wakeful.Shell.Tool.Change
import Wakeful.Shell.Tool.Digest
import Wakeful.Shell.Tool.Dump
import Wakeful.Shell.Tool.Edit
import Wakeful.Shell.Tool.Files
import Wakeful.Shell.Tool.Find
import Wakeful.Shell.Tool.Pair
import Wakeful.Shell.Tool.Search
import Wakeful.Shell.Tool.Shape
import Wakeful.Shell.Tool.Sort
import Wakeful.Shell.Tool.Text
import Wakeful.Shell.Tool.Translate
import Wakeful.Shell.Tool.Values
import Wakeful.Shell.Verdict
import Wakeful.System.Errno
import Wakeful.System.Log
import Wakeful.System.Report
import Wakeful.System.Span
import Wakeful.Text.Octets
import Wakeful.Text.Printable
import Wakeful.Text.Quoted
import Wakeful.Text.Similarity
import Wakeful.Text.Utf8
import Wakeful.Text.Visible
import Wakeful.Toml.Document
import Wakeful.Toml.Draft
import Wakeful.Toml.Moment
import Wakeful.Toml.Number
import Wakeful.Toml.Reader
import Wakeful.Toml.Selection
import Wakeful.Toml.Spelling
import Wakeful.Toml.Text
import Wakeful.Toml.Value
import Wakeful.Wire.Codec
import Wakeful.Wire.Length
import Wakeful.Wire.Message
