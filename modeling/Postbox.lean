import Postbox.Body
import Postbox.CommandLine
import Postbox.Config
import Postbox.Connection
import Postbox.Exchange
import Postbox.Failure
import Postbox.Form
import Postbox.Form.Encoding
import Postbox.Http.Bytes
import Postbox.Http.Client
import Postbox.Http.Framing
import Postbox.Http.Head
import Postbox.Http.MediaType
import Postbox.Http.Outgoing
import Postbox.Http.SystemProxy
import Postbox.Json.Reader
import Postbox.Json.Value
import Postbox.Layers
import Postbox.LogFilter
import Postbox.Main
import Postbox.Number.Binary64
import Postbox.Number.Shortest
import Postbox.Proofs.Scheduler.Worker
import Postbox.Report
import Postbox.Scheduler
import Postbox.Session
import Postbox.Submission
import Postbox.Task
import Postbox.Text.Base64
import Postbox.Text.Blank
import Postbox.Text.Charset
import Postbox.Text.Charset.Big5
import Postbox.Text.Charset.EucKr
import Postbox.Text.Charset.Gbk
import Postbox.Text.Charset.Jis
import Postbox.Text.Charset.Legacy
import Postbox.Text.Charset.Page
import Postbox.Text.Charset.Table
import Postbox.Text.Decimal
import Postbox.Text.Hex
import Postbox.Text.Percent
import Postbox.Text.Pieces
import Postbox.Text.Quoted
import Postbox.Text.Record
import Postbox.Text.Runs
import Postbox.Text.Utf8
import Postbox.Text.Visible
import Postbox.Token
import Postbox.Toml.Document
import Postbox.Toml.Excerpt
import Postbox.Toml.Printer
import Postbox.Toml.Reader
import Postbox.Toml.Scalar
import Postbox.Toml.Text
import Postbox.Unicode.Canonical
import Postbox.Unicode.Combining
import Postbox.Unicode.Composed
import Postbox.Unicode.Direction
import Postbox.Unicode.Joining
import Postbox.Unicode.Table
import Postbox.Url
import Postbox.Url.DomainName
import Postbox.Url.Host
import Postbox.Url.Mapping
import Postbox.Url.Path
import Postbox.Url.Punycode
import Postbox.Url.Reader
import Postbox.Wire
import Postbox.Proofs.Scheduler.Lane
import Postbox.Proofs.Scheduler.History
import Postbox.Proofs.Scheduler.Life
import Postbox.Proofs.Scheduler.Cancellation
import Postbox.Proofs.Form.RoundTrip
import Postbox.Proofs.Json.Grammar
import Postbox.Proofs.Json.Leaves
import Postbox.Proofs.Json.Reader
import Postbox.Proofs.Token.Language
import Postbox.Proofs.Token.Precedence
import Postbox.Proofs.Toml.Strings
import Postbox.Proofs.Toml.Values
import Postbox.Proofs.Toml.Lines
import Postbox.Proofs.Config.RoundTrip
import Postbox.Proofs.Config.Resolved
import Postbox.Proofs.Scheduler.Joining
import Postbox.Proofs.Session.ShowConfig
import Postbox.Proofs.Session.Printed
import Postbox.Proofs.Session.Outcome
import Postbox.Proofs.Form.Insertion
import Postbox.Proofs.Session.Entries
import Postbox.Proofs.Scheduler.Start
import Postbox.Proofs.Scheduler.Ending
import Postbox.Proofs.Scheduler.Edges
import Postbox.Proofs.Scheduler.Flag
import Postbox.Proofs.Scheduler.Lifecycle
import Postbox.Proofs.Scheduler.Advice
import Postbox.Proofs.Scheduler.Isolation
import Postbox.Proofs.Submission.Paths
import Postbox.Proofs.Http.SingleExchange
import Postbox.Proofs.Form.History
import Postbox.Proofs.Text.Blank
import Postbox.Proofs.Token.Numeral
import Postbox.Proofs.Toml.Alteration
import Postbox.Proofs.Toml.Top
import Postbox.Proofs.Config.Keys
import Postbox.Proofs.Session.Layers
import Postbox.Proofs.Token.Object
import Postbox.Proofs.Report.Causes
import Postbox.Proofs.Url.Scheme
import Postbox.Proofs.Connection.Opening
import Postbox.Proofs.Text.Lossy
import Postbox.Proofs.Text.Charset
import Postbox.Proofs.Http.MediaTypes
import Postbox.Proofs.Http.Headers
import Postbox.Proofs.Http.Bodies
import Postbox.Proofs.Http.HeadForm
import Postbox.Proofs.Http.Heads
import Postbox.Proofs.Http.Outcome
