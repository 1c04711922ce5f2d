import ReviewRota.Argument
import ReviewRota.Binary
import ReviewRota.Command.Arguments
import ReviewRota.Command.Display
import ReviewRota.Command.Invocation
import ReviewRota.Command.Run
import ReviewRota.Console.Block
import ReviewRota.Console.Cluster
import ReviewRota.Console.Drawing
import ReviewRota.Console.Emoji
import ReviewRota.Console.Emoji.Names
import ReviewRota.Console.Handler
import ReviewRota.Console.Handler.Token
import ReviewRota.Console.Handler.Value
import ReviewRota.Console.Markup
import ReviewRota.Console.Style
import ReviewRota.Console.Width
import ReviewRota.Console.Wrap
import ReviewRota.Datum
import ReviewRota.Datum.Json
import ReviewRota.Datum.Shown
import ReviewRota.Datum.Toml
import ReviewRota.Desk
import ReviewRota.Desk.Deactivation
import ReviewRota.Desk.Incomplete
import ReviewRota.Desk.Membership
import ReviewRota.Desk.Merge
import ReviewRota.Desk.Review
import ReviewRota.Desk.Statistics
import ReviewRota.Draw
import ReviewRota.Failure
import ReviewRota.Http.Application
import ReviewRota.Http.Body
import ReviewRota.Http.Call
import ReviewRota.Http.Cors
import ReviewRota.Http.Message
import ReviewRota.Http.Route
import ReviewRota.Http.Target
import ReviewRota.Log.Event
import ReviewRota.Log.Level
import ReviewRota.Log.Line
import ReviewRota.Log.Sink
import ReviewRota.Main
import ReviewRota.Moment
import ReviewRota.Moment.Timestamp
import ReviewRota.Numeral
import ReviewRota.Operation
import ReviewRota.Quantity
import ReviewRota.Reading
import ReviewRota.Reading.Form
import ReviewRota.Request
import ReviewRota.Service
import ReviewRota.Session
import ReviewRota.Settings
import ReviewRota.Settings.Environment
import ReviewRota.Settings.Load
import ReviewRota.Settings.Section
import ReviewRota.Sorting
import ReviewRota.Store
import ReviewRota.Store.Access
import ReviewRota.Store.Address
import ReviewRota.Store.Listing
import ReviewRota.Store.Schema
import ReviewRota.Store.Tally
import ReviewRota.Text.Blank
import ReviewRota.Text.Case
import ReviewRota.Text.Digit
import ReviewRota.Text.Encoding
import ReviewRota.Text.Letter
import ReviewRota.Text.Lowercase
import ReviewRota.Text.Printable
import ReviewRota.Text.Quoted
import ReviewRota.View
import ReviewRota.Proofs.Outcome
import ReviewRota.Proofs.Picks
import ReviewRota.Proofs.Edits
import ReviewRota.Proofs.Cascade
import ReviewRota.Proofs.Effects
import ReviewRota.Proofs.Errands
import ReviewRota.Proofs.Runs
import ReviewRota.Proofs.Reviewers
import ReviewRota.Proofs.Frozen
import ReviewRota.Proofs.Audit
import ReviewRota.Proofs.Staffing
import ReviewRota.Proofs.Deactivations
import ReviewRota.Proofs.Answers
import ReviewRota.Proofs.Plain
import ReviewRota.Proofs.Gateway
import ReviewRota.Proofs.Candour
import ReviewRota.Proofs.Timeline
import ReviewRota.Proofs.Faults
import ReviewRota.Proofs.Integrity
import ReviewRota.Proofs.Attendance
import ReviewRota.Proofs.Counts
import ReviewRota.Proofs.Trimmed
import ReviewRota.Proofs.Tables
import ReviewRota.Proofs.Documents
import ReviewRota.Proofs.Sections
import ReviewRota.Proofs.Variables
import ReviewRota.Proofs.Sources
import ReviewRota.Proofs.Reports
import ReviewRota.Proofs.Strain
import ReviewRota.Proofs.Wire
import ReviewRota.Proofs.Escapes
import ReviewRota.Proofs.Addresses
import ReviewRota.Proofs.Alike
import ReviewRota.Proofs.Interchange
import ReviewRota.Proofs.Contexts
import ReviewRota.Proofs.Endings
import ReviewRota.Proofs.Views
import ReviewRota.Proofs.Deals
import ReviewRota.Proofs.Openings
import ReviewRota.Proofs.Replacements
import ReviewRota.Proofs.Foundings
import ReviewRota.Proofs.Repairs
import ReviewRota.Proofs.Retracing
import ReviewRota.Proofs.Rankings
import ReviewRota.Proofs.Partitions
import ReviewRota.Proofs.Workloads
import ReviewRota.Proofs.Shares
import ReviewRota.Proofs.Admissions
