import GuestNet.AccessPolicy
import GuestNet.Backend
import GuestNet.Bytes
import GuestNet.Call
import GuestNet.Config
import GuestNet.Connection
import GuestNet.Decimal.Binary64
import GuestNet.Decimal.Digits
import GuestNet.Decimal.Shortest
import GuestNet.Driver
import GuestNet.DriverError
import GuestNet.Endpoint
import GuestNet.Guest
import GuestNet.Handle
import GuestNet.HandleTable
import GuestNet.Http.Body
import GuestNet.Http.Encoder
import GuestNet.Http.Exchange
import GuestNet.Http.Headers
import GuestNet.Http.Message
import GuestNet.Http.Request
import GuestNet.Http.Token
import GuestNet.Http.Uri
import GuestNet.Idna.Domain
import GuestNet.Idna.Label
import GuestNet.Idna.Mapping
import GuestNet.Idna.Punycode
import GuestNet.IoError
import GuestNet.Json.Collection
import GuestNet.Json.Fault
import GuestNet.Json.Number
import GuestNet.Json.Printer
import GuestNet.Json.Reader
import GuestNet.Json.Record
import GuestNet.Json.Scalar
import GuestNet.Json.Skip
import GuestNet.Json.Text
import GuestNet.Memory
import GuestNet.Options
import GuestNet.Overlap.Machine
import GuestNet.Overlap.Stage
import GuestNet.Proofs.Access.Allowlist
import GuestNet.Proofs.Access.Confinement
import GuestNet.Proofs.Access.Decision
import GuestNet.Proofs.Access.DialedEndpoint
import GuestNet.Proofs.Access.HostHeader
import GuestNet.Proofs.Access.LetterCase
import GuestNet.Proofs.Access.Redirects
import GuestNet.Proofs.Access.RuleOrder
import GuestNet.Proofs.Access.StreamSpellings
import GuestNet.Proofs.Connection.Acceptance
import GuestNet.Proofs.Connection.Limits
import GuestNet.Proofs.Driver.Effects
import GuestNet.Proofs.Driver.Independence
import GuestNet.Proofs.Driver.Registration
import GuestNet.Proofs.Driver.Rejections
import GuestNet.Proofs.Guest.Accounting
import GuestNet.Proofs.Guest.DeadHandles
import GuestNet.Proofs.Guest.Events
import GuestNet.Proofs.Guest.Frame
import GuestNet.Proofs.Guest.Holding
import GuestNet.Proofs.Guest.Reading
import GuestNet.Proofs.Guest.Refinement
import GuestNet.Proofs.Guest.Writing
import GuestNet.Proofs.HandleTable.Bindings
import GuestNet.Proofs.HandleTable.Candidates
import GuestNet.Proofs.HandleTable.Counter
import GuestNet.Proofs.HandleTable.Entries
import GuestNet.Proofs.HandleTable.Search
import GuestNet.Proofs.Http.BodyReads
import GuestNet.Proofs.Http.BrokenBody
import GuestNet.Proofs.Http.GivenHeaders
import GuestNet.Proofs.Http.Heads
import GuestNet.Proofs.Http.Metadata
import GuestNet.Proofs.Http.Tokens
import GuestNet.Proofs.Http.Validation
import GuestNet.Proofs.Http.WellFormed
import GuestNet.Proofs.Json.Documents
import GuestNet.Proofs.Json.Enclosures
import GuestNet.Proofs.Json.Meaning
import GuestNet.Proofs.Json.Settled
import GuestNet.Proofs.Json.Skipping
import GuestNet.Proofs.Json.Syntax
import GuestNet.Proofs.Json.WrittenObject
import GuestNet.Proofs.Memory.Accesses
import GuestNet.Proofs.Options.Members
import GuestNet.Proofs.Options.RoundTrip
import GuestNet.Proofs.Overlap.Alone
import GuestNet.Proofs.Overlap.Closing
import GuestNet.Proofs.Overlap.Courses
import GuestNet.Proofs.Overlap.Issuing
import GuestNet.Proofs.Target.Grammar
import GuestNet.Proofs.Text.ByteOrder
import GuestNet.Proofs.Text.Graphic
import GuestNet.Proofs.Url.AfterHost
import GuestNet.Proofs.Url.Graphic
import GuestNet.Proofs.Url.HostCase
import GuestNet.Proofs.Url.LetterCase
import GuestNet.Proofs.Url.Percent
import GuestNet.Proofs.Url.Segments
import GuestNet.ResultCode
import GuestNet.Scripted.Peers
import GuestNet.Scripted.Script
import GuestNet.Scripted.Session
import GuestNet.Scripted.World
import GuestNet.Stream.Address
import GuestNet.Stream.Dial
import GuestNet.Stream.Socket
import GuestNet.Target
import GuestNet.Text.Base64
import GuestNet.Text.Blank
import GuestNet.Text.Composition
import GuestNet.Text.Graphic
import GuestNet.Text.Quoted
import GuestNet.Text.Ranges
import GuestNet.TextMap
import GuestNet.Url.Basic
import GuestNet.Url.Host
import GuestNet.Url.Ipv4
import GuestNet.Url.Ipv6
import GuestNet.Url.Parse
import GuestNet.Url.Path
import GuestNet.Url.Percent
