import Gatehouse.Base64
import Gatehouse.CommandLine
import Gatehouse.Config
import Gatehouse.Config.Json
import Gatehouse.Config.Load
import Gatehouse.Config.Validity
import Gatehouse.Config.Yaml
import Gatehouse.Decimal.Layout
import Gatehouse.Decimal.Shortest
import Gatehouse.Digest
import Gatehouse.Directory
import Gatehouse.Failure
import Gatehouse.File
import Gatehouse.Fingerprint
import Gatehouse.Http.Answer
import Gatehouse.Http.MediaType
import Gatehouse.Http.Service
import Gatehouse.Http.Traffic
import Gatehouse.Http.Webhook
import Gatehouse.Identity
import Gatehouse.Json.Document
import Gatehouse.Json.Fault
import Gatehouse.Json.Record
import Gatehouse.Json.Scalar
import Gatehouse.Json.Skip
import Gatehouse.Json.Value
import Gatehouse.Json.Writer
import Gatehouse.Key.File
import Gatehouse.Key.Line
import Gatehouse.Key.PublicKey
import Gatehouse.Key.Wire
import Gatehouse.Main
import Gatehouse.Metrics
import Gatehouse.Metrics.Exposition
import Gatehouse.Metrics.Sample
import Gatehouse.Net.DatabaseUrl
import Gatehouse.Net.SocketAddress
import Gatehouse.Proofs.Base64
import Gatehouse.Proofs.Base64.Bits
import Gatehouse.Proofs.Config.Documents
import Gatehouse.Proofs.Config.Fingerprints
import Gatehouse.Proofs.Config.HostKeys
import Gatehouse.Proofs.Config.Validity
import Gatehouse.Proofs.Decimal.Layout
import Gatehouse.Proofs.Fingerprint
import Gatehouse.Proofs.First
import Gatehouse.Proofs.Http.Acceptance
import Gatehouse.Proofs.Http.Accounting
import Gatehouse.Proofs.Http.Agreement
import Gatehouse.Proofs.Http.Backends
import Gatehouse.Proofs.Http.Bodies
import Gatehouse.Proofs.Http.Exchange
import Gatehouse.Proofs.Http.Independence
import Gatehouse.Proofs.Http.Isolation
import Gatehouse.Proofs.Http.Messages
import Gatehouse.Proofs.Http.Refusals
import Gatehouse.Proofs.Http.Repertoire
import Gatehouse.Proofs.Http.Reply
import Gatehouse.Proofs.Http.Routing
import Gatehouse.Proofs.Http.Scrapes
import Gatehouse.Proofs.Http.Traffic
import Gatehouse.Proofs.Http.TrustedKeys
import Gatehouse.Proofs.Identity
import Gatehouse.Proofs.Identity.Delimiters
import Gatehouse.Proofs.Identity.Inverse
import Gatehouse.Proofs.Identity.Messages
import Gatehouse.Proofs.Json.Documents
import Gatehouse.Proofs.Json.Fields
import Gatehouse.Proofs.Json.Pieces
import Gatehouse.Proofs.Json.Records
import Gatehouse.Proofs.Json.Skip
import Gatehouse.Proofs.Json.Spelling
import Gatehouse.Proofs.Json.Strings
import Gatehouse.Proofs.Key.Canonical
import Gatehouse.Proofs.Key.FieldEnd
import Gatehouse.Proofs.Key.Grammar
import Gatehouse.Proofs.Key.Names
import Gatehouse.Proofs.Key.Options
import Gatehouse.Proofs.Key.Rendering
import Gatehouse.Proofs.Key.RoundTrip
import Gatehouse.Proofs.Metrics.Durations
import Gatehouse.Proofs.Metrics.Exposition
import Gatehouse.Proofs.Metrics.Lines
import Gatehouse.Proofs.Metrics.Readings
import Gatehouse.Proofs.Metrics.Samples
import Gatehouse.Proofs.Result
import Gatehouse.Proofs.Route
import Gatehouse.Proofs.Route.FirstMention
import Gatehouse.Proofs.Startup
import Gatehouse.Proofs.Store.Agreement
import Gatehouse.Proofs.Store.ListedUsers
import Gatehouse.Proofs.Store.Memory
import Gatehouse.Proofs.Store.Runs
import Gatehouse.Proofs.Text.Lines
import Gatehouse.Proofs.Text.Quoted
import Gatehouse.Proofs.Text.Trim
import Gatehouse.Proofs.Text.Utf8
import Gatehouse.Proofs.Text.Words
import Gatehouse.Proofs.Verdict
import Gatehouse.Route
import Gatehouse.Shape
import Gatehouse.Startup
import Gatehouse.Store
import Gatehouse.Store.Build
import Gatehouse.Store.Database
import Gatehouse.Store.Memory
import Gatehouse.Text.Blank
import Gatehouse.Text.Digit
import Gatehouse.Text.Printable
import Gatehouse.Text.Quoted
import Gatehouse.Text.Utf8
import Gatehouse.Verdict
import Gatehouse.Yaml.Block
import Gatehouse.Yaml.Cursor
import Gatehouse.Yaml.Fault
import Gatehouse.Yaml.Flow
import Gatehouse.Yaml.Grammar
import Gatehouse.Yaml.Lexer
import Gatehouse.Yaml.Node
import Gatehouse.Yaml.Scalar
import Gatehouse.Yaml.Tag
import Gatehouse.Yaml.Token
