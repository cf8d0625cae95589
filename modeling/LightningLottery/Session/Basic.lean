/-
  A session with the lottery.

  * `Session`: the configuration, who takes part, the client of the server, the event stream, and
    the payments under way.
  * `Session.assemble`: the session of an identity; both trackers hear the event stream.
  * `Session.replaceIdentity`: switches to another identity, or changes nothing at all.
  * `Session.withdrawalCode`: the code that a wallet scans to withdraw the prizes.
  * `Session.close`: ends the event stream and all requests, and forgets all payments.
-/
import LightningLottery.Api.Client
import LightningLottery.Config.Basic
import LightningLottery.LightningAddress
import LightningLottery.Lnurl
import LightningLottery.Nickname.Pool
import LightningLottery.Storage.Basic
import LightningLottery.Stream.Listener

namespace LightningLottery

/-- A session; `Tag` tells the listeners of its owner apart. -/
structure Session (Tag : Type) where
  config : Config
  identity : Identity
  api : ApiClient
  events : EventStream (Listener Tag)
  trackers : PaymentTrackers
  deriving DecidableEq, Repr

namespace Session

variable {Tag : Type}

/-- The session of an identity with a client, which speaks for that identity from now on. -/
def assemble (config : Config) (identity : Identity) (api : ApiClient) : Session Tag :=
  let events := (EventStream.start config.backoff).attach .invoices
  let events := events.1.attach .payments
  ⟨config, identity, api.setPublicKey identity.publicKey, events.1, .empty⟩

/-- The session of an identity with a client of the configured server. -/
def ofConfig (config : Config) (identity : Identity) : Session Tag :=
  assemble config identity (.ofUrl config.apiUrl)

/-- The session of an identity and the request that opens the event stream. -/
def connect (config : Config) (identity : Identity) : Except Error (Session Tag × Url) :=
  match config.eventsUrl with
  | .ok url => .ok (ofConfig config identity, url)
  | .error cause => .error (.url cause)

/-- Takes in what arrives at the event stream: payments are settled, and the payloads for the
    listeners of the owner are handed on. -/
def arrive (s : Session Tag) (arrival : Arrival) : Session Tag × List (Tag × Json) :=
  let (events, calls) := s.events.arrive arrival
  let (trackers, given) := Listener.receiveAll s.trackers calls
  ({ s with events := events, trackers := trackers }, given)

/-- Adds a waiter for a payment. -/
def track (s : Session Tag) (channel : PaymentChannel) (id : PaymentId) : Session Tag :=
  { s with trackers := s.trackers.update channel fun t => t.track id }

/-- Saves an identity and switches to it. If its parts do not belong together, or it cannot be
    saved, the session stays as it is. -/
def replaceIdentity (s : Session Tag) (identity : Identity) (storage : Storage) :
    (Session Tag × Storage) × Except Error Unit :=
  match identity.check with
  | .error e => ((s, storage), .error e)
  | .ok _ =>
    match storage.save identity with
    | (storage, .error e) => ((s, storage), .error e)
    | (storage, .ok _) =>
      (({ s with api := s.api.setPublicKey identity.publicKey, identity := identity }, storage),
        .ok ())

/-- The code that a wallet scans to withdraw the prizes. -/
def withdrawalCode (s : Session Tag) : Except Error String := do
  let signature ← s.identity.signature
  let url ← s.api.withdrawalUrl s.identity.publicKey signature
  Lnurl.encode url.text

/-- Sets the address that prizes are paid to, if it is one; tells whether the server took it. -/
def setLightningAddress (s : Session Tag) (server : ApiClient.Server) (address : String) :
    Except Error Bool := do
  LightningAddress.validate address
  let reply ← s.api.ask server (.setLightningAddress address)
  return reply.success

/-- Ends the event stream and all requests, and forgets all payments. -/
def close (s : Session Tag) : Session Tag :=
  { s with events := s.events.close, api := s.api.abort, trackers := s.trackers.clear }

/-- A session in one line. -/
def describe (s : Session Tag) : String :=
  "LotteryClient \x7b api: " ++ s.api.describe ++ ", events: " ++ s.events.describe ++ ", .. \x7d"

end Session
end LightningLottery
