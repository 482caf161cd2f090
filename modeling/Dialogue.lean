import Dialogue.Bindings
import Dialogue.Category.Basic
import Dialogue.Category.OfMarkup
import Dialogue.Choice
import Dialogue.CommandLine.Arguments
import Dialogue.CommandLine.Console
import Dialogue.CommandLine.Run
import Dialogue.CommandLine.Usage
import Dialogue.Config.Settings
import Dialogue.Config.Toml.Moment
import Dialogue.Config.Toml.Number
import Dialogue.Config.Toml.Reader
import Dialogue.Config.Toml.Table
import Dialogue.Config.Toml.Text
import Dialogue.Config.Toml.Wrapper
import Dialogue.Config.Value
import Dialogue.Config.Variable.Layer
import Dialogue.Config.Variable.Reader
import Dialogue.Config.Variable.Text
import Dialogue.Conversation
import Dialogue.Decimal.Digits
import Dialogue.Decimal.Double
import Dialogue.Failure
import Dialogue.Folder
import Dialogue.Host.Basic
import Dialogue.Host.Command
import Dialogue.Instant.Basic
import Dialogue.Instant.Epoch
import Dialogue.Instant.Rfc3339
import Dialogue.Interview
import Dialogue.Json.Fault
import Dialogue.Json.Number
import Dialogue.Json.Reader
import Dialogue.Json.Text
import Dialogue.Loading.Bot
import Dialogue.Loading.Document
import Dialogue.Loading.Gate
import Dialogue.Main
import Dialogue.Markup.Attribute
import Dialogue.Markup.Entity
import Dialogue.Markup.Error
import Dialogue.Markup.Event
import Dialogue.Markup.Piece
import Dialogue.Markup.Tree
import Dialogue.Pattern.Basic
import Dialogue.Pattern.Captures
import Dialogue.Pattern.Column
import Dialogue.Pattern.Match
import Dialogue.Pattern.Wording
import Dialogue.Report
import Dialogue.Resolution.Basic
import Dialogue.Resolution.Evaluation
import Dialogue.Resolution.Request
import Dialogue.Resolution.Scan
import Dialogue.Session
import Dialogue.Snapshot.Basic
import Dialogue.Snapshot.Reading
import Dialogue.Snapshot.Writing
import Dialogue.Template.Basic
import Dialogue.Text.Blank
import Dialogue.Text.CaseTable
import Dialogue.Text.CasedTable
import Dialogue.Text.Casing
import Dialogue.Text.Cleanup
import Dialogue.Text.CodeTable
import Dialogue.Text.FoldTable
import Dialogue.Text.Printable
import Dialogue.Text.WordTable
import Dialogue.Proofs.Text.Table
import Dialogue.Proofs.Text.Folding
import Dialogue.Proofs.Pattern.Phrase
import Dialogue.Proofs.Pattern.Reading
import Dialogue.Proofs.Pattern.Assignment
import Dialogue.Proofs.Pattern.Matching
import Dialogue.Proofs.Choice
import Dialogue.Proofs.Resolution.Guarded
import Dialogue.Proofs.Resolution.Agreement
import Dialogue.Proofs.Text.Cleaning
import Dialogue.Proofs.Resolution.Redirection
import Dialogue.Proofs.Resolution.Limit
import Dialogue.Proofs.Pattern.Expression
import Dialogue.Proofs.Pattern.Translation
import Dialogue.Proofs.Loading.Interleaving
import Dialogue.Proofs.Resolution.Scope
import Dialogue.Proofs.Resolution.Ending
import Dialogue.Proofs.Session.Turns
import Dialogue.Proofs.Session.Resumption
import Dialogue.Proofs.Session.Answering
import Dialogue.Proofs.Resolution.Stability
import Dialogue.Proofs.Decimal.Digits
import Dialogue.Proofs.Instant.Rfc3339
import Dialogue.Proofs.Json.Text
import Dialogue.Proofs.Snapshot.RoundTrip
import Dialogue.Proofs.Text.Markup
import Dialogue.Proofs.Resolution.Markup
import Dialogue.Proofs.Session.Markup
import Dialogue.Proofs.Resolution.Settled
import Dialogue.Proofs.CommandLine.Questions
import Dialogue.Proofs.Loading.Success
import Dialogue.Proofs.Loading.Background
import Dialogue.Proofs.Session.Replies
import Dialogue.Proofs.CommandLine.Console
import Dialogue.Proofs.CommandLine.Processes
import Dialogue.Proofs.CommandLine.Timing
import Dialogue.Proofs.Resolution.Stages
import Dialogue.Proofs.Resolution.Nesting
import Dialogue.Proofs.Resolution.Counters
import Dialogue.Proofs.Resolution.Course
import Dialogue.Proofs.Session.Chances
import Dialogue.Proofs.Text.Clean
import Dialogue.Proofs.Resolution.Cleanness
import Dialogue.Proofs.Session.Cleanness
import Dialogue.Proofs.Category.Grouping
import Dialogue.Proofs.Session.Grouping
import Dialogue.Proofs.Resolution.Shelf
import Dialogue.Proofs.Session.Isolation
import Dialogue.Proofs.Resolution.Answers
import Dialogue.Proofs.Resolution.Calls
import Dialogue.Proofs.Resolution.Termination
import Dialogue.Proofs.Resolution.Responses
import Dialogue.Proofs.Resolution.Winning
import Dialogue.Proofs.Resolution.Writes
import Dialogue.Proofs.Session.Writes
import Dialogue.Proofs.Markup.Cutting
import Dialogue.Proofs.Markup.Reading
import Dialogue.Proofs.Markup.Printing
import Dialogue.Proofs.Text.Seams
import Dialogue.Proofs.Markup.Insertion
import Dialogue.Proofs.Markup.Halves
import Dialogue.Proofs.Category.Wordings
import Dialogue.Proofs.Category.Templates
import Dialogue.Proofs.Resolution.Alike
import Dialogue.Proofs.Category.Remarks
import Dialogue.Proofs.CommandLine.Saving
import Dialogue.Proofs.CommandLine.Scheduling
import Dialogue.Proofs.Loading.OneByOne
import Dialogue.Proofs.Resolution.Cursor
import Dialogue.Proofs.Text.Margins
import Dialogue.Proofs.Resolution.Values
import Dialogue.Proofs.Resolution.Conditions
import Dialogue.Proofs.Pattern.Generality
import Dialogue.Proofs.Resolution.Shadowing
import Dialogue.Proofs.Text.Recasing
import Dialogue.Proofs.Pattern.Recasing
import Dialogue.Proofs.Pattern.Normalization
import Dialogue.Proofs.Category.References
import Dialogue.Proofs.Resolution.Moments
import Dialogue.Proofs.Resolution.Shorthand
import Dialogue.Proofs.Markup.Traversal
import Dialogue.Proofs.Category.TagNames
import Dialogue.Proofs.Markup.Lengths
import Dialogue.Proofs.Resolution.Echo
import Dialogue.Proofs.Config.Paths
import Dialogue.Proofs.Config.Documents
import Dialogue.Proofs.Config.Layers
import Dialogue.Proofs.Template.LineBreaks
import Dialogue.Proofs.Markup.Balance
