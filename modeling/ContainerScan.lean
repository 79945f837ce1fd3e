import ContainerScan.Analysis.Decoding
import ContainerScan.Analysis.Encoding
import ContainerScan.Analysis.Findings
import ContainerScan.Analysis.Severity
import ContainerScan.Analyzer.Basic
import ContainerScan.Analyzer.Definition
import ContainerScan.Analyzer.RetireJs
import ContainerScan.Availability
import ContainerScan.Command
import ContainerScan.CommandLine.Arguments
import ContainerScan.CommandLine.Meaning
import ContainerScan.CommandLine.Request
import ContainerScan.CommandLine.Run
import ContainerScan.Connection
import ContainerScan.Container.Basic
import ContainerScan.Container.ExitCode
import ContainerScan.Daemon.Basic
import ContainerScan.Daemon.Wording
import ContainerScan.Display.Colour
import ContainerScan.Display.ImageList
import ContainerScan.Display.Literal
import ContainerScan.Display.Literal.Token
import ContainerScan.Display.Markup
import ContainerScan.Display.Screen
import ContainerScan.Display.Shortcode
import ContainerScan.Display.Shortcode.Table
import ContainerScan.Display.Style
import ContainerScan.Display.Summary
import ContainerScan.Display.Table
import ContainerScan.Display.Values
import ContainerScan.Display.Wrapping
import ContainerScan.Failure
import ContainerScan.Health
import ContainerScan.Image
import ContainerScan.Json.Basic
import ContainerScan.Json.Reader
import ContainerScan.Json.Renderer
import ContainerScan.Lifecycle.Operations
import ContainerScan.Lifecycle.Run
import ContainerScan.Lifecycle.Session
import ContainerScan.Log.Event
import ContainerScan.Log.Level
import ContainerScan.Main
import ContainerScan.Number.Binary64
import ContainerScan.Number.Bounds
import ContainerScan.Number.Reading
import ContainerScan.Number.Shown
import ContainerScan.Number.Whole
import ContainerScan.Proofs.Alongside
import ContainerScan.Proofs.Alongside.Clock
import ContainerScan.Proofs.Alongside.Lifecycle
import ContainerScan.Proofs.Alongside.Scan
import ContainerScan.Proofs.Alongside.World
import ContainerScan.Proofs.Analyzer
import ContainerScan.Proofs.Availability
import ContainerScan.Proofs.Availability.Bound
import ContainerScan.Proofs.Availability.Course
import ContainerScan.Proofs.Availability.Pace
import ContainerScan.Proofs.Availability.Rounds
import ContainerScan.Proofs.Availability.Timing
import ContainerScan.Proofs.Client.EntryPoint
import ContainerScan.Proofs.Client.Lease
import ContainerScan.Proofs.Client.Unopened
import ContainerScan.Proofs.CloneFailure
import ContainerScan.Proofs.Command
import ContainerScan.Proofs.Command.Emptiness
import ContainerScan.Proofs.Command.Template
import ContainerScan.Proofs.CommandLine.Arguments
import ContainerScan.Proofs.CommandLine.Run
import ContainerScan.Proofs.CommandLine.Show
import ContainerScan.Proofs.Connection
import ContainerScan.Proofs.Display.Markup
import ContainerScan.Proofs.Display.Screen
import ContainerScan.Proofs.Display.Summary
import ContainerScan.Proofs.Display.Wrapping
import ContainerScan.Proofs.Evaluation
import ContainerScan.Proofs.Exchange
import ContainerScan.Proofs.Image
import ContainerScan.Proofs.Json.Grammar
import ContainerScan.Proofs.Json.Reader
import ContainerScan.Proofs.Json.Recognition
import ContainerScan.Proofs.Json.Renderer
import ContainerScan.Proofs.Json.Scalars
import ContainerScan.Proofs.Json.Spelling
import ContainerScan.Proofs.Lifecycle.Answers
import ContainerScan.Proofs.Lifecycle.Attendance
import ContainerScan.Proofs.Lifecycle.Configuration
import ContainerScan.Proofs.Lifecycle.Ending
import ContainerScan.Proofs.Lifecycle.Operations
import ContainerScan.Proofs.Lifecycle.Order
import ContainerScan.Proofs.Lifecycle.Output
import ContainerScan.Proofs.Lifecycle.Refusal
import ContainerScan.Proofs.Lifecycle.Removal
import ContainerScan.Proofs.Lifecycle.Reuse
import ContainerScan.Proofs.Lifecycle.Run
import ContainerScan.Proofs.Lifecycle.Sequence
import ContainerScan.Proofs.Lifecycle.Session
import ContainerScan.Proofs.Number.Rounding
import ContainerScan.Proofs.Number.Sign
import ContainerScan.Proofs.PrivateKey
import ContainerScan.Proofs.Record.History
import ContainerScan.Proofs.Record.Keeping
import ContainerScan.Proofs.Record.Overlay
import ContainerScan.Proofs.Record.Requests
import ContainerScan.Proofs.Record.Store
import ContainerScan.Proofs.Redaction
import ContainerScan.Proofs.Report
import ContainerScan.Proofs.Report.Acceptance
import ContainerScan.Proofs.Report.Edit
import ContainerScan.Proofs.Report.Shape
import ContainerScan.Proofs.Scan
import ContainerScan.Proofs.Schema.Checked
import ContainerScan.Proofs.Settings
import ContainerScan.Proofs.Step
import ContainerScan.Proofs.Text.Blank
import ContainerScan.Proofs.Text.Columns
import ContainerScan.Proofs.Text.Damage
import ContainerScan.Proofs.Text.Masking
import ContainerScan.Proofs.Text.Parts
import ContainerScan.Proofs.Text.Substitution
import ContainerScan.Proofs.Text.Utf8
import ContainerScan.Proofs.Text.Words
import ContainerScan.Proofs.Time.Clock
import ContainerScan.Proofs.Time.Moments
import ContainerScan.Proofs.Verdict
import ContainerScan.Proofs.World
import ContainerScan.Record.Basic
import ContainerScan.Record.Column
import ContainerScan.Record.Keeping
import ContainerScan.Record.Location
import ContainerScan.Record.Store
import ContainerScan.Report.Basic
import ContainerScan.Report.Decoding
import ContainerScan.Report.Encoding
import ContainerScan.Scan
import ContainerScan.Schema.Checked
import ContainerScan.Schema.Violation
import ContainerScan.Settings.Basic
import ContainerScan.Settings.Coercion
import ContainerScan.Settings.Dotenv
import ContainerScan.Text.Blank
import ContainerScan.Text.Cluster
import ContainerScan.Text.Digits
import ContainerScan.Text.Letters
import ContainerScan.Text.Parts
import ContainerScan.Text.Printable
import ContainerScan.Text.Quoted
import ContainerScan.Text.Ranges
import ContainerScan.Text.Similarity
import ContainerScan.Text.Substitution
import ContainerScan.Text.Utf8
import ContainerScan.Text.Width
import ContainerScan.Text.Word
import ContainerScan.Time.CalendarDate
import ContainerScan.Time.Clock
import ContainerScan.Time.Timestamp
import ContainerScan.Time.Timestamp.Reading
import ContainerScan.World
