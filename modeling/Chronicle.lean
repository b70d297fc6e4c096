import Chronicle.Command.Line
import Chronicle.Command.Run
import Chronicle.Command.Switch
import Chronicle.Config.Reader
import Chronicle.Config.Section
import Chronicle.Config.Settings
import Chronicle.Event.Content
import Chronicle.Event.Field
import Chronicle.Event.Log
import Chronicle.Event.Reader
import Chronicle.Event.Writer
import Chronicle.File.Path
import Chronicle.File.Tree
import Chronicle.Json.Parser
import Chronicle.Json.Printer
import Chronicle.Json.Token
import Chronicle.Json.Value
import Chronicle.Log.Level
import Chronicle.Log.Message
import Chronicle.Log.Note
import Chronicle.Log.Sink
import Chronicle.Main
import Chronicle.Message
import Chronicle.Number.Binary64
import Chronicle.Number.Decimal
import Chronicle.Number.Numeral
import Chronicle.Number.Word
import Chronicle.Octets.Base64
import Chronicle.Octets.Charset
import Chronicle.Octets.Fault
import Chronicle.Octets.Utf16
import Chronicle.Octets.Utf8
import Chronicle.Pattern.Cursor
import Chronicle.Pattern.Escape
import Chronicle.Pattern.Fault
import Chronicle.Pattern.Flag
import Chronicle.Pattern.Node
import Chronicle.Pattern.Reader
import Chronicle.Pattern.Search
import Chronicle.Proofs.Replay.Move
import Chronicle.Proofs.Replay.Outcome
import Chronicle.Proofs.Replay.Refinement
import Chronicle.Proofs.Replay.Standing
import Chronicle.Proofs.Report.Listings
import Chronicle.Proofs.Report.Losses
import Chronicle.Proofs.Report.Operations
import Chronicle.Proofs.Runs
import Chronicle.Replay.Machine
import Chronicle.Report.Backend
import Chronicle.Report.Environment
import Chronicle.Report.Handle
import Chronicle.Report.OpenTest
import Chronicle.Report.Record
import Chronicle.Report.Rendering
import Chronicle.Report.Reporter
import Chronicle.Schema
import Chronicle.Session.Basic
import Chronicle.Session.Pending
import Chronicle.Session.Recorder
import Chronicle.Session.Registry
import Chronicle.Text.Alphanumeric
import Chronicle.Text.Blank
import Chronicle.Text.Case
import Chronicle.Text.Hex
import Chronicle.Text.Identifier
import Chronicle.Text.Lines
import Chronicle.Text.Names
import Chronicle.Text.Printable
import Chronicle.Text.Quoted
import Chronicle.Text.Range
import Chronicle.Text.Split
import Chronicle.Time.Calendar
import Chronicle.Time.Timestamp
import Chronicle.Vocabulary
import Chronicle.Yaml.Cursor
import Chronicle.Yaml.Document
import Chronicle.Yaml.Fault
import Chronicle.Yaml.Lexer
import Chronicle.Yaml.Node
import Chronicle.Yaml.Number
import Chronicle.Yaml.Plain
import Chronicle.Yaml.Property
import Chronicle.Yaml.Reader
import Chronicle.Yaml.Scalar
import Chronicle.Yaml.Token
import Chronicle.Yaml.Value
import Chronicle.Proofs.Replay.Lifecycle
import Chronicle.Proofs.Replay.Log
import Chronicle.Proofs.Replay.Window
import Chronicle.Proofs.Replay.Account
import Chronicle.Proofs.Replay.Forest
import Chronicle.Proofs.Replay.Nesting
import Chronicle.Proofs.Replay.Coupling
import Chronicle.Proofs.Report.Renaming
import Chronicle.Proofs.Replay.Addition
import Chronicle.Proofs.Session.Times
import Chronicle.Proofs.Session.Uses
import Chronicle.Proofs.Session.Draining
import Chronicle.Proofs.Follows
import Chronicle.Proofs.Replay.Following
import Chronicle.Proofs.Report.References
import Chronicle.Proofs.Report.Step
import Chronicle.Proofs.File.Directory
import Chronicle.Proofs.Report.Order
import Chronicle.Proofs.Report.Filed
import Chronicle.Proofs.Replay.Containers
import Chronicle.Proofs.Replay.Tally
import Chronicle.Proofs.Session.Results
import Chronicle.Proofs.Curtails
import Chronicle.Proofs.Replay.Script
import Chronicle.Proofs.Report.Interruption
import Chronicle.Proofs.Session.Failure
import Chronicle.Proofs.Replay.Refusal
import Chronicle.Proofs.Report.Accord
import Chronicle.Proofs.Replay.Recovery
import Chronicle.Proofs.Session.Retry
import Chronicle.Proofs.Octets.Base64
import Chronicle.Proofs.Octets.Charset
import Chronicle.Proofs.Event.Content
import Chronicle.Proofs.Event.RoundTrip
import Chronicle.Proofs.Report.Hooks
import Chronicle.Proofs.Replay.Hooks
import Chronicle.Proofs.Session.Pending
import Chronicle.Proofs.Session.Calls
import Chronicle.Proofs.Session.Recording
import Chronicle.Proofs.Session.Outcomes
import Chronicle.Proofs.Replay.EndedHooks
import Chronicle.Proofs.Session.BrokenHooks
import Chronicle.Proofs.Session.Placed
import Chronicle.Proofs.Session.Labels
import Chronicle.Proofs.Event.Rejection
import Chronicle.Proofs.Replay.LastMessage
import Chronicle.Proofs.Keeps
import Chronicle.Proofs.File.Frame
import Chronicle.Proofs.Report.Saving
import Chronicle.Proofs.Command.Run
import Chronicle.Proofs.Report.CallOrder
import Chronicle.Proofs.Replay.CallOrder
import Chronicle.Proofs.Session.Leftovers
import Chronicle.Proofs.Event.Spelling
import Chronicle.Proofs.Report.Custody
import Chronicle.Proofs.Replay.DeclinedHooks
import Chronicle.Proofs.Json.Words
import Chronicle.Proofs.Json.Reading
import Chronicle.Proofs.Report.ReadBack
import Chronicle.Proofs.Report.Pruning
import Chronicle.Proofs.Session.Scans
import Chronicle.Proofs.Text.Lines
import Chronicle.Proofs.Event.Log
import Chronicle.Proofs.Time.Calendar
import Chronicle.Proofs.Time.Timestamp
import Chronicle.Proofs.Json.Controls
import Chronicle.Proofs.File.Append
import Chronicle.Proofs.Log.Framing
import Chronicle.Proofs.Replay.Remarks
import Chronicle.Proofs.Replay.Diagnostics
import Chronicle.Proofs.Text.Split
import Chronicle.Proofs.Report.Environment
import Chronicle.Proofs.Report.StepPositions
import Chronicle.Proofs.Report.StepStack
import Chronicle.Proofs.Yaml.Reading
import Chronicle.Proofs.Yaml.Values
import Chronicle.Proofs.Config.Sections
import Chronicle.Proofs.Config.Load
import Chronicle.Proofs.Upholds
import Chronicle.Proofs.Pattern.Rounds
