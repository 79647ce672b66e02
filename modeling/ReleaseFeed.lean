import ReleaseFeed.App.CommandLine
import ReleaseFeed.App.Error
import ReleaseFeed.App.Journal
import ReleaseFeed.App.Paths
import ReleaseFeed.App.Run
import ReleaseFeed.App.Settings
import ReleaseFeed.Channel.Basic
import ReleaseFeed.Channel.Build
import ReleaseFeed.Channel.Reference
import ReleaseFeed.Decimal.Binary64
import ReleaseFeed.Decimal.Shortest
import ReleaseFeed.Decimal.Text
import ReleaseFeed.Fetch.Engine
import ReleaseFeed.Fetch.Operation
import ReleaseFeed.Fetch.Outcome
import ReleaseFeed.Fetch.Request
import ReleaseFeed.Fetch.Retrieval
import ReleaseFeed.Files.Path
import ReleaseFeed.Files.Tree
import ReleaseFeed.Json.Byte
import ReleaseFeed.Json.Fault
import ReleaseFeed.Json.Number
import ReleaseFeed.Json.Reader
import ReleaseFeed.Json.Record
import ReleaseFeed.Json.Skip
import ReleaseFeed.Json.Text
import ReleaseFeed.Log.Record
import ReleaseFeed.Log.Trim
import ReleaseFeed.Log.Writer
import ReleaseFeed.Main
import ReleaseFeed.Manifest.Basic
import ReleaseFeed.Manifest.Decode
import ReleaseFeed.Manifest.Encode
import ReleaseFeed.Proofs.App.Precedence
import ReleaseFeed.Proofs.App.Run
import ReleaseFeed.Proofs.App.Settings
import ReleaseFeed.Proofs.Channel.Acceptance
import ReleaseFeed.Proofs.Channel.Conversion
import ReleaseFeed.Proofs.Channel.Current
import ReleaseFeed.Proofs.Channel.Latest
import ReleaseFeed.Proofs.Channel.Lookup
import ReleaseFeed.Proofs.Channel.Refusal
import ReleaseFeed.Proofs.Fetch.Agreement
import ReleaseFeed.Proofs.Fetch.Conclusion
import ReleaseFeed.Proofs.Fetch.Delivery
import ReleaseFeed.Proofs.Fetch.Ending
import ReleaseFeed.Proofs.Fetch.Guard
import ReleaseFeed.Proofs.Fetch.History
import ReleaseFeed.Proofs.Fetch.Mailboxes
import ReleaseFeed.Proofs.Fetch.Promptness
import ReleaseFeed.Proofs.Fetch.Publication
import ReleaseFeed.Proofs.Fetch.Receivers
import ReleaseFeed.Proofs.Fetch.Routing
import ReleaseFeed.Proofs.Fetch.SingleFlight
import ReleaseFeed.Proofs.Fetch.Steps
import ReleaseFeed.Proofs.Fetch.Subscribers
import ReleaseFeed.Proofs.Fetch.Tracking
import ReleaseFeed.Proofs.Fetch.Unwaited
import ReleaseFeed.Proofs.Fetch.Waiting
import ReleaseFeed.Proofs.Files.Making
import ReleaseFeed.Proofs.Files.Opening
import ReleaseFeed.Proofs.Files.Parent
import ReleaseFeed.Proofs.Files.Rewriting
import ReleaseFeed.Proofs.Json.Encoding
import ReleaseFeed.Proofs.Json.Form
import ReleaseFeed.Proofs.Json.Front
import ReleaseFeed.Proofs.Json.Invariant
import ReleaseFeed.Proofs.Json.Literal
import ReleaseFeed.Proofs.Json.Reading
import ReleaseFeed.Proofs.Json.Record
import ReleaseFeed.Proofs.Json.Scalar
import ReleaseFeed.Proofs.Json.Skip
import ReleaseFeed.Proofs.Json.Sound
import ReleaseFeed.Proofs.Json.Spelling
import ReleaseFeed.Proofs.Json.Syntax
import ReleaseFeed.Proofs.Json.Token
import ReleaseFeed.Proofs.Json.Tolerance
import ReleaseFeed.Proofs.Json.Writing
import ReleaseFeed.Proofs.Log.Convergence
import ReleaseFeed.Proofs.Log.Removal
import ReleaseFeed.Proofs.Log.Trimming
import ReleaseFeed.Proofs.Manifest.Edits
import ReleaseFeed.Proofs.Manifest.Form
import ReleaseFeed.Proofs.Manifest.Range
import ReleaseFeed.Proofs.Manifest.RoundTrip
import ReleaseFeed.Proofs.Manifest.Shape
import ReleaseFeed.Proofs.Report.Alignment
import ReleaseFeed.Proofs.Report.Composition
import ReleaseFeed.Proofs.Report.Hint
import ReleaseFeed.Proofs.Report.Limit
import ReleaseFeed.Proofs.Report.News
import ReleaseFeed.Proofs.Report.Padding
import ReleaseFeed.Proofs.Report.Plain
import ReleaseFeed.Proofs.Report.Printing
import ReleaseFeed.Proofs.Text.Allowance
import ReleaseFeed.Proofs.Text.Blanks
import ReleaseFeed.Proofs.Text.Columns
import ReleaseFeed.Proofs.Text.Digits
import ReleaseFeed.Proofs.Text.Lossy
import ReleaseFeed.Proofs.Text.Measure
import ReleaseFeed.Proofs.Text.Strict
import ReleaseFeed.Proofs.Text.Trim
import ReleaseFeed.Proofs.Text.Utf8
import ReleaseFeed.Proofs.Text.Words
import ReleaseFeed.Proofs.Time.Display
import ReleaseFeed.Proofs.Time.Range
import ReleaseFeed.Proofs.Traversal
import ReleaseFeed.Proofs.Version.Completion
import ReleaseFeed.Proofs.Version.Display
import ReleaseFeed.Proofs.Version.Grammar
import ReleaseFeed.Proofs.Version.Order
import ReleaseFeed.Proofs.Version.Parsing
import ReleaseFeed.Proofs.Version.Precedence
import ReleaseFeed.Proofs.Version.Reading
import ReleaseFeed.Proofs.Wrap.Bound
import ReleaseFeed.Proofs.Wrap.Fragments
import ReleaseFeed.Proofs.Wrap.Greedy
import ReleaseFeed.Proofs.Wrap.Lines
import ReleaseFeed.Proofs.Wrap.Relayout
import ReleaseFeed.Proofs.Wrap.Requests
import ReleaseFeed.Proofs.Wrap.Rows
import ReleaseFeed.Proofs.Wrap.Stability
import ReleaseFeed.Report.Render
import ReleaseFeed.Report.Sink
import ReleaseFeed.System.Error
import ReleaseFeed.Text.Blank
import ReleaseFeed.Text.Canonical
import ReleaseFeed.Text.CodePoint
import ReleaseFeed.Text.CodePoint.Columns
import ReleaseFeed.Text.CodePoint.Composition
import ReleaseFeed.Text.CodePoint.Direction
import ReleaseFeed.Text.CodePoint.Emoji
import ReleaseFeed.Text.CodePoint.Folding
import ReleaseFeed.Text.CodePoint.GraphemeExtend
import ReleaseFeed.Text.CodePoint.Joining
import ReleaseFeed.Text.CodePoint.Marks
import ReleaseFeed.Text.CodePoint.Spelling
import ReleaseFeed.Text.CodePoint.Unprintable
import ReleaseFeed.Text.Direction
import ReleaseFeed.Text.Folding
import ReleaseFeed.Text.Punycode
import ReleaseFeed.Text.Quoted
import ReleaseFeed.Text.Radix
import ReleaseFeed.Text.Split
import ReleaseFeed.Text.Utf8
import ReleaseFeed.Text.Width
import ReleaseFeed.Time.Date
import ReleaseFeed.Time.Instant
import ReleaseFeed.Time.Parse
import ReleaseFeed.Transport.Disk
import ReleaseFeed.Transport.Endpoint
import ReleaseFeed.Transport.Error
import ReleaseFeed.Transport.HostName
import ReleaseFeed.Transport.Http
import ReleaseFeed.Transport.Message
import ReleaseFeed.Transport.RequestTarget
import ReleaseFeed.Transport.Server
import ReleaseFeed.Version.Basic
import ReleaseFeed.Version.Order
import ReleaseFeed.Version.Parse
import ReleaseFeed.Wrap.Basic
import ReleaseFeed.Wrap.Cache
