import EventText.Event.Compact
import EventText.Report
import EventText.Template.Render
import EventText.Proofs.Expr.Meaning
import EventText.Proofs.Failure
import EventText.Proofs.Expr.Binding
import EventText.Proofs.Expr.Lowering
import EventText.Proofs.Expr.Pulling
import EventText.Proofs.Expr.Evaluation
import EventText.Proofs.Expr.Wildcard
import EventText.Proofs.Template.Binding
import EventText.Proofs.Template.Grammar
import EventText.Proofs.Template.Unbinding
import EventText.Proofs.Expr.Written
import EventText.Proofs.Template.Written
import EventText.Proofs.Template.Compiling
import EventText.Proofs.Expr.Lookup
import EventText.Proofs.Template.Lookup
import EventText.Proofs.Output.Extends
import EventText.Proofs.Output.Codes
import EventText.Proofs.Output.Dressing
import EventText.Proofs.Output.Showing
import EventText.Proofs.Template.Reference
import EventText.Proofs.Expr.Parts
import EventText.Proofs.Template.Parts
import EventText.Proofs.Expr.Positions
import EventText.Proofs.Expr.Scanning
import EventText.Proofs.Expr.Placement
import EventText.Proofs.Expr.Relocation
import EventText.Proofs.Template.Joining
import EventText.Proofs.Expr.Levels
import EventText.Proofs.Expr.Words
import EventText.Proofs.Expr.Printing
import EventText.Proofs.Expr.Rereading
import EventText.Proofs.Expr.RoundTrip
import EventText.Proofs.Value.Parts
import EventText.Proofs.Json.Text
import EventText.Proofs.Json.Lexemes
import EventText.Proofs.Json.Grammar
import EventText.Proofs.Json.Image
import EventText.Proofs.Json.Rereading
import EventText.Proofs.Json.RoundTrip
import EventText.Proofs.Text.Utf8
import EventText.Proofs.Time.Rfc3339
import EventText.Proofs.Event.Compact
import EventText.Proofs.Template.Themes
import EventText.Proofs.Template.Alignment
import EventText.Proofs.Expr.Mentioning
import EventText.Proofs.Template.Questions
import EventText.Proofs.Template.Agreement
import EventText.Proofs.Template.Rest
import EventText.Proofs.Template.Composing
import EventText.Proofs.Template.Appending
import EventText.Proofs.Expr.Calls
import EventText.Proofs.Expr.Resolving
import EventText.Proofs.Expr.Candidates
import EventText.Proofs.Template.Resolving
import EventText.Proofs.Expr.Taking
import EventText.Proofs.Expr.Places
import EventText.Proofs.Expr.Tiling
import EventText.Proofs.Expr.Locating
import EventText.Proofs.Template.Locating
import EventText.Proofs.Template.Causes
import EventText.Proofs.Expr.Moving
import EventText.Proofs.Template.Chaining
import EventText.Proofs.Template.Renumbering
import EventText.Proofs.Template.Concatenation
import EventText.Proofs.Value.Symmetry
import EventText.Proofs.Time.Calendar
import EventText.Proofs.Time.Clock
import EventText.Proofs.Output.Window
import EventText.Proofs.Output.ScalarText
import EventText.Proofs.Output.Refinement
import EventText.Proofs.Output.Counting
import EventText.Proofs.Expr.Numerals
import EventText.Proofs.Expr.Gathering
import EventText.Proofs.Expr.Allotting
import EventText.Proofs.Template.Allotting
import EventText.Proofs.Text.Like
import EventText.Proofs.Number.Nearest
import EventText.Proofs.Expr.Arithmetic
import EventText.Proofs.Expr.IgnoringCase
import EventText.Proofs.Template.Rounds
import EventText.Proofs.Number.Picture
import EventText.Proofs.Number.Scientific
import EventText.Proofs.Number.Product
import EventText.Proofs.Number.Percent
import EventText.Proofs.Time.RoundTrip
import EventText.Proofs.Event.Moment
import EventText.Proofs.Expr.Objects
import EventText.Proofs.Expr.Nulls
import EventText.Proofs.Expr.Membership
import EventText.Proofs.Template.Tokens
import EventText.Proofs.Message.Cutting
import EventText.Proofs.Message.Segments
import EventText.Proofs.Template.Quoting
import EventText.Proofs.Template.Formatting
