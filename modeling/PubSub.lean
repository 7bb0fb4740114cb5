import PubSub.Entry
import PubSub.Journal
import PubSub.Json.Basic
import PubSub.Json.Numeral
import PubSub.Json.Printer
import PubSub.Json.Reader
import PubSub.Level
import PubSub.Main
import PubSub.Number.Binary64
import PubSub.Number.Magnitude
import PubSub.Number.Shortest
import PubSub.Number.Word
import PubSub.Pattern
import PubSub.Program
import PubSub.Proofs.Json.RoundTrip
import PubSub.Proofs.Json.Tokens
import PubSub.Proofs.Pattern.Concatenation
import PubSub.Proofs.Pattern.Coverage
import PubSub.Proofs.Pattern.Expression
import PubSub.Proofs.Pattern.Language
import PubSub.Proofs.Pattern.Matching
import PubSub.Proofs.Pattern.Separation
import PubSub.Proofs.Pattern.Widening
import PubSub.Proofs.Protocol.Denial
import PubSub.Proofs.Protocol.Drafts
import PubSub.Proofs.Protocol.Exchanges
import PubSub.Proofs.Protocol.Interruption
import PubSub.Proofs.Protocol.Lines
import PubSub.Proofs.Protocol.Refusals
import PubSub.Proofs.Protocol.Replies
import PubSub.Proofs.Protocol.Scanning
import PubSub.Proofs.Protocol.Serving
import PubSub.Proofs.Protocol.Spellings
import PubSub.Proofs.Registry.Departure
import PubSub.Proofs.Registry.Effects
import PubSub.Proofs.Registry.FanOut
import PubSub.Proofs.Registry.History
import PubSub.Proofs.Registry.Invariant
import PubSub.Proofs.Registry.Isolation
import PubSub.Proofs.Registry.Lifetime
import PubSub.Proofs.Registry.Outline
import PubSub.Proofs.Registry.Paging
import PubSub.Proofs.Registry.Permission
import PubSub.Proofs.Registry.Provenance
import PubSub.Proofs.Registry.Restoration
import PubSub.Proofs.Registry.Soundness
import PubSub.Proofs.Registry.SubscribeBatch
import PubSub.Proofs.Registry.Survey
import PubSub.Proofs.Registry.Timeline
import PubSub.Proofs.Registry.UnsubscribeBatch
import PubSub.Proofs.Registry.Views
import PubSub.Proofs.Registry.Withdrawal
import PubSub.Proofs.Title.Grammar
import PubSub.Proofs.Title.Preparation
import PubSub.Proofs.Title.Tokens
import PubSub.Protocol.Decoding
import PubSub.Protocol.Fault
import PubSub.Protocol.Reply
import PubSub.Protocol.Request
import PubSub.Protocol.Session
import PubSub.Registry.Basic
import PubSub.Registry.Listing
import PubSub.Registry.Operation
import PubSub.Registry.Subscription
import PubSub.Settings.Decoding
import PubSub.Settings.Dotenv
import PubSub.Settings.Environment
import PubSub.Settings.Loading
import PubSub.Settings.Setting
import PubSub.Settings.Toml.Document
import PubSub.Settings.Toml.Reader
import PubSub.Settings.Toml.Scalar
import PubSub.Text.Alphanumeric
import PubSub.Text.Blank
import PubSub.Text.ByteOrderMark
import PubSub.Text.Hidden
import PubSub.Text.Quoted
import PubSub.Text.Ranges
import PubSub.Title.Canonical
import PubSub.Title.Segment
import PubSub.Topic
