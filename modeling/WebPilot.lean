import WebPilot.Browser.Announcement
import WebPilot.Browser.Finder
import WebPilot.Browser.Launcher
import WebPilot.Browser.Link
import WebPilot.Calendar
import WebPilot.Check.Issue
import WebPilot.Check.Scalar
import WebPilot.CommandLine.Basic
import WebPilot.CommandLine.Help
import WebPilot.Conversation.Node
import WebPilot.Conversation.Run
import WebPilot.Conversation.State
import WebPilot.Conversation.Task
import WebPilot.Decimal.Binary
import WebPilot.Decimal.Layout
import WebPilot.Decimal.Numeral
import WebPilot.Decimal.Shortest
import WebPilot.Environment.Basic
import WebPilot.Environment.File
import WebPilot.Failure
import WebPilot.Files.Basic
import WebPilot.Files.Path
import WebPilot.Hosted.Block
import WebPilot.Hosted.Client
import WebPilot.Hosted.Pacer
import WebPilot.Hosted.Submission
import WebPilot.Json.Basic
import WebPilot.Json.Display
import WebPilot.Json.Reader
import WebPilot.Json.Shown
import WebPilot.Json.Writer
import WebPilot.Ledger.Basic
import WebPilot.Ledger.Invocation
import WebPilot.Ledger.Keeping
import WebPilot.Locator.Candidate
import WebPilot.Locator.Quoting
import WebPilot.Locator.Resolve
import WebPilot.Log
import WebPilot.Main
import WebPilot.Message
import WebPilot.Model.Answer
import WebPilot.Model.Repair
import WebPilot.Model.Request
import WebPilot.Model.Service
import WebPilot.Number
import WebPilot.Origin
import WebPilot.Page.Basic
import WebPilot.Page.Visit
import WebPilot.Program.Basic
import WebPilot.Replay.Basic
import WebPilot.Reply
import WebPilot.Server.Connection
import WebPilot.Server.Content
import WebPilot.Session.Backend
import WebPilot.Session.Event
import WebPilot.Session.Execute
import WebPilot.Session.Operation
import WebPilot.Session.Console
import WebPilot.Session.World
import WebPilot.Settings
import WebPilot.Shape
import WebPilot.Text.Base64
import WebPilot.Text.Blank
import WebPilot.Text.Case
import WebPilot.Text.Digest
import WebPilot.Text.Digit
import WebPilot.Text.Hex
import WebPilot.Text.Markup
import WebPilot.Text.Pieces
import WebPilot.Text.Quoted
import WebPilot.Text.Utf8
import WebPilot.Text.Visible
import WebPilot.Text.Word
import WebPilot.Tool.Basic
import WebPilot.Tool.Catalog
import WebPilot.Toolbox.Basic
import WebPilot.Toolbox.Input
import WebPilot.Toolbox.Snapshot
import WebPilot.Proofs.Conversation.Answering
import WebPilot.Proofs.Conversation.Calls
import WebPilot.Proofs.Conversation.Ceiling
import WebPilot.Proofs.Conversation.Failing
import WebPilot.Proofs.Conversation.Growth
import WebPilot.Proofs.Conversation.Learning
import WebPilot.Proofs.Conversation.Replies
import WebPilot.Proofs.Conversation.Rounds
import WebPilot.Proofs.Conversation.Step
import WebPilot.Proofs.Conversation.Strays
import WebPilot.Proofs.Conversation.Submitting
import WebPilot.Proofs.Conversation.Waiting
import WebPilot.Proofs.Decimal.Nearest
import WebPilot.Proofs.Files.Directory
import WebPilot.Proofs.Files.Writing
import WebPilot.Proofs.Hosted.Conversion
import WebPilot.Proofs.Hosted.Pacing
import WebPilot.Proofs.Hosted.Window
import WebPilot.Proofs.Json.Limits
import WebPilot.Proofs.Json.Refusal
import WebPilot.Proofs.Json.RoundTrip
import WebPilot.Proofs.Json.Text
import WebPilot.Proofs.Ledger.CrashDirectory
import WebPilot.Proofs.Ledger.FileNames
import WebPilot.Proofs.Ledger.Keeping
import WebPilot.Proofs.Ledger.Recording
import WebPilot.Proofs.Ledger.Recovery
import WebPilot.Proofs.Ledger.RoundTrip
import WebPilot.Proofs.Ledger.Taking
import WebPilot.Proofs.Program.FinalSave
import WebPilot.Proofs.Program.Saving
import WebPilot.Proofs.Replay.Exchange
import WebPilot.Proofs.Replay.Learned
import WebPilot.Proofs.Replay.Reconcile
import WebPilot.Proofs.Session.Execution
import WebPilot.Proofs.Session.Growth
import WebPilot.Proofs.Text.Utf8
import WebPilot.Proofs.Files.Beside
import WebPilot.Proofs.Replay.AllOrNothing
import WebPilot.Proofs.Replay.Fixpoint
import WebPilot.Proofs.Replay.Journal
import WebPilot.Proofs.Browser.Releasing
import WebPilot.Proofs.Locator.Cascade
import WebPilot.Proofs.Toolbox.Orders
import WebPilot.Proofs.Locator.PathExpression
import WebPilot.Proofs.Json.Laid
import WebPilot.Proofs.Model.Answers
import WebPilot.Proofs.Locator.Quoting
import WebPilot.Proofs.Browser.Listening
import WebPilot.Proofs.Locator.AttributeSelector
import WebPilot.Proofs.Conversation.Transcript
import WebPilot.Proofs.Session.Interrupting
import WebPilot.Proofs.Conversation.Pausing
import WebPilot.Proofs.Hosted.Echo
import WebPilot.Proofs.Server.Connection
import WebPilot.Proofs.Tool.Catalog
import WebPilot.Proofs.Tool.Schema
import WebPilot.Proofs.CommandLine.Command
import WebPilot.Proofs.Ledger.Numbering
import WebPilot.Proofs.Conversation.Arriving
