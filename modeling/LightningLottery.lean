import LightningLottery.Api.Client
import LightningLottery.Api.Endpoint
import LightningLottery.Api.EventSource
import LightningLottery.Api.Exchange
import LightningLottery.Api.Refusal
import LightningLottery.Bech32.Checksum
import LightningLottery.Bech32.Codec
import LightningLottery.Bech32.Words
import LightningLottery.Config.Basic
import LightningLottery.Config.Dotenv
import LightningLottery.Config.Network
import LightningLottery.Curve.Ed25519
import LightningLottery.Curve.Modular
import LightningLottery.Curve.Secp256k1
import LightningLottery.Error
import LightningLottery.Hash.Blocks
import LightningLottery.Hash.Sha256
import LightningLottery.Hash.Sha512
import LightningLottery.Identity.Basic
import LightningLottery.Identity.Signer
import LightningLottery.Invoice.Amount
import LightningLottery.Invoice.Basic
import LightningLottery.Invoice.Fault
import LightningLottery.Invoice.Field
import LightningLottery.Invoice.Signed
import LightningLottery.Json.Fault
import LightningLottery.Json.Literal
import LightningLottery.Json.Shape
import LightningLottery.Json.Tree
import LightningLottery.Json.Value
import LightningLottery.LightningAddress
import LightningLottery.Lnurl
import LightningLottery.Nickname.Adjectives
import LightningLottery.Nickname.Nouns
import LightningLottery.Nickname.Pool
import LightningLottery.Payment.Tracker
import LightningLottery.Proofs.Bech32.Decode
import LightningLottery.Proofs.Invoice.Acceptance
import LightningLottery.Proofs.Invoice.Network
import LightningLottery.Proofs.Payment.Waiter
import LightningLottery.Proofs.Session.Hearing
import LightningLottery.Proofs.Session.Settlement
import LightningLottery.Proofs.Steps
import LightningLottery.Proofs.Stream.Arrival
import LightningLottery.Proofs.Stream.Cutting
import LightningLottery.Proofs.Stream.Lines
import LightningLottery.Proofs.Stream.Listening
import LightningLottery.Proofs.Stream.Mark
import LightningLottery.Proofs.Stream.Publication
import LightningLottery.Proofs.Text.Blank
import LightningLottery.Proofs.Text.Split
import LightningLottery.Proofs.Word64
import LightningLottery.Session.Basic
import LightningLottery.Session.Bet
import LightningLottery.Session.Withdrawal
import LightningLottery.Storage.Basic
import LightningLottery.Storage.FileSystem
import LightningLottery.Storage.Route
import LightningLottery.Stream.Backoff
import LightningLottery.Stream.Frame
import LightningLottery.Stream.Listener
import LightningLottery.Stream.Loop
import LightningLottery.Stream.Registry
import LightningLottery.Stream.State
import LightningLottery.Stream.Timeline
import LightningLottery.Text.Alphanumeric
import LightningLottery.Text.Blank
import LightningLottery.Text.Clock
import LightningLottery.Text.CodeTable
import LightningLottery.Text.Grouped
import LightningLottery.Text.Hex
import LightningLottery.Text.Printable
import LightningLottery.Text.Quoted
import LightningLottery.Text.Split
import LightningLottery.Text.Utf8
import LightningLottery.Url.Address
import LightningLottery.Url.Basic
import LightningLottery.Url.Domain
import LightningLottery.Url.Domain.Composition
import LightningLottery.Url.Domain.Direction
import LightningLottery.Url.Domain.Image
import LightningLottery.Url.Domain.Joining
import LightningLottery.Url.Domain.Mark
import LightningLottery.Url.Domain.Repertoire
import LightningLottery.Url.Fault
import LightningLottery.Url.Form
import LightningLottery.Url.Parse
import LightningLottery.Url.Path
import LightningLottery.Url.Percent
import LightningLottery.Url.Punycode
import LightningLottery.Url.Scheme
import LightningLottery.Wire.Event
import LightningLottery.Wire.Reply
import LightningLottery.Word64
import LightningLottery.Proofs.Stream.Closing
import LightningLottery.Proofs.Stream.Backoff
import LightningLottery.Proofs.Stream.Schedule
import LightningLottery.Proofs.Stream.Reconnecting
import LightningLottery.Proofs.Stream.Receiving
import LightningLottery.Proofs.Stream.Delivery
import LightningLottery.Proofs.Payment.History
import LightningLottery.Proofs.Payment.Senders
import LightningLottery.Proofs.Stream.Timeline
import LightningLottery.Proofs.Text.Utf8
import LightningLottery.Proofs.Api.Flight
import LightningLottery.Proofs.Session.Course
import LightningLottery.Proofs.Session.Silence
import LightningLottery.Proofs.Session.Gate
import LightningLottery.Proofs.Bech32.Written
import LightningLottery.Proofs.Identity.Check
import LightningLottery.Proofs.Session.Naming
import LightningLottery.Proofs.Json.Text
import LightningLottery.Proofs.Json.Members
import LightningLottery.Proofs.Storage.Entries
import LightningLottery.Proofs.Storage.Saving
import LightningLottery.Proofs.Session.Switching
import LightningLottery.Proofs.Bech32.Reading
import LightningLottery.Proofs.Bech32.Regrouping
import LightningLottery.Proofs.Bech32.Inverse
import LightningLottery.Proofs.Bech32.Alteration
import LightningLottery.Proofs.Invoice.Tampering
import LightningLottery.Proofs.Stream.Meaning
import LightningLottery.Proofs.Stream.Writing
import LightningLottery.Proofs.Text.LetterCase
import LightningLottery.Proofs.Invoice.LetterCase
import LightningLottery.Proofs.Invoice.Wire
import LightningLottery.Proofs.Invoice.Facts
import LightningLottery.Proofs.Stream.Registering
import LightningLottery.Proofs.Stream.Grouping
import LightningLottery.Proofs.Identity.Canonical
import LightningLottery.Proofs.Session.Entering
import LightningLottery.Proofs.Api.Aborting
import LightningLottery.Proofs.Storage.Answers
import LightningLottery.Proofs.Json.Number
import LightningLottery.Proofs.Json.Compact
import LightningLottery.Proofs.Wire.Record
import LightningLottery.Proofs.Wire.RoundTrip
import LightningLottery.Proofs.Wire.Event
import LightningLottery.Proofs.Url.Form
import LightningLottery.Proofs.Url.Segments
import LightningLottery.Proofs.Lnurl
import LightningLottery.Proofs.Session.WithdrawalCode
import LightningLottery.Proofs.Invoice.Rounding
import LightningLottery.Proofs.Invoice.Scale
import LightningLottery.Proofs.Session.Betting
import LightningLottery.Proofs.Text.KeyText
import LightningLottery.Proofs.Identity.Restore
import LightningLottery.Proofs.Nickname.Place
import LightningLottery.Proofs.Nickname.Distinct
import LightningLottery.Proofs.Storage.Atomicity
import LightningLottery.Proofs.Storage.Keeping
import LightningLottery.Proofs.Invoice.Exactness
import LightningLottery.Proofs.LightningAddress
import LightningLottery.Proofs.Api.Calls
import LightningLottery.Proofs.Config.Settings
import LightningLottery.Proofs.Text.Grouped
import LightningLottery.Proofs.Text.Clock
import LightningLottery.Proofs.Stream.Delay
import LightningLottery.Proofs.Bech32.Accumulator
import LightningLottery.Proofs.Api.Refusal
import LightningLottery.Proofs.Identity.KeyReading
