/-
  The configuration of a client.

  * `Settings`: what is set, piece by piece; `Settings.build` checks it and fills in the rest.
  * `Config`: what a client needs to know about its surroundings.
  * `Config.ofLookup`: the configuration that named variables describe.
  * `Config.apiBase`, `Config.eventsUrl`: where requests go, and where the event stream is.
-/
import LightningLottery.Config.Network
import LightningLottery.Stream.Backoff
import LightningLottery.Url.Parse

namespace LightningLottery

/-- What a client needs to know about its surroundings. -/
structure Config where
  apiUrl : Url
  network : Network
  /-- What every accepted invoice starts with. -/
  bolt11Prefix : String
  /-- The directory of the identity record. -/
  storageDir : String
  backoffFloor : Duration
  backoffCeiling : Duration
  deriving DecidableEq, Repr

/-- What is set of a configuration. -/
structure Settings where
  apiUrl : Option Url
  network : Option Network
  bolt11Prefix : Option String
  storageDir : Option String
  backoff : Option (Duration × Duration)
  deriving DecidableEq, Repr

namespace Settings

/-- Nothing is set. -/
def empty : Settings := ⟨none, none, none, none, none⟩

/-- The URL of the server where none is set. -/
def defaultApiUrl : Url :=
  ⟨"http", some ⟨"", none, .domain "localhost", some 8080⟩, false, .rooted [""], none, none⟩

/-- The directory of the identity record where none is set. -/
def defaultStorageDir : String := ".btry"

/-- What every prefix of an invoice starts with. -/
def lightningStart : String := "ln"

/-- Sets the URL of the server, which must speak HTTP. -/
def setApiUrl (s : Settings) (given : String) : Except Error Settings :=
  match Url.parse given with
  | .error cause => .error (.url cause)
  | .ok u =>
    if u.isHttp then .ok { s with apiUrl := some u } else .error (.config (.notHttp given))

/-- Sets the network to the one with this name. -/
def setNetwork (s : Settings) (given : String) : Except Error Settings :=
  match Network.parse given with
  | .error fault => .error (.config fault)
  | .ok network => .ok { s with network := some network }

/-- Sets what invoices start with. -/
def setBolt11Prefix (s : Settings) (given : String) : Settings :=
  { s with bolt11Prefix := some given }

/-- Sets the directory of the identity record. -/
def setStorageDir (s : Settings) (given : String) : Settings := { s with storageDir := some given }

/-- Sets the bounds of the delay between attempts to connect. -/
def setBackoff (s : Settings) (floor ceiling : Duration) : Settings :=
  { s with backoff := some (floor, ceiling) }

/-- The configuration with these settings. The prefix is made small and must be one of Lightning;
    the delay must not be zero, nor its floor above its ceiling. -/
def build (s : Settings) : Except Error Config :=
  let network := s.network.getD .mainnet
  let start := asciiLower (s.bolt11Prefix.getD network.bolt11Prefix)
  let (floor, ceiling) := s.backoff.getD (Backoff.defaultFloor, Backoff.defaultCeiling)
  if !startsWith start lightningStart then .error (.config (.bolt11Prefix start))
  else if floor.nanoseconds = 0 || ceiling.nanoseconds < floor.nanoseconds then
    .error (.config .backoff)
  else
    .ok ⟨s.apiUrl.getD defaultApiUrl, network, start, s.storageDir.getD defaultStorageDir, floor,
      ceiling⟩

end Settings

namespace Config

/-! ## Named variables -/

/-- The variable with the URL of the server. -/
def apiUrlKey : String := "BTRY_API_URL"

/-- The variable with the name of the network. -/
def networkKey : String := "BTRY_NETWORK"

/-- The variable with the start of invoices. -/
def bolt11PrefixKey : String := "BTRY_BOLT11_PREFIX"

/-- The variable with the directory of the identity record. -/
def storageDirKey : String := "BTRY_STORAGE_DIR"

/-- The value of a variable without blanks at its ends; one that is all blank is not set. -/
def valueOf (lookup : String → Option String) (key : String) : Option String :=
  ((lookup key).map trim).filter fun value => !value.isEmpty

/-- Changes settings by a value, if there is one. -/
def setIfGiven {α : Type} (set : Settings → α → Except Error Settings) (value : Option α)
    (s : Settings) : Except Error Settings :=
  match value with
  | some v => set s v
  | none => .ok s

/-- The settings that named variables describe, read in the order URL, network, prefix and
    directory. -/
def settingsOf (lookup : String → Option String) : Except Error Settings := do
  let s ← setIfGiven Settings.setApiUrl (valueOf lookup apiUrlKey) .empty
  let s ← setIfGiven Settings.setNetwork (valueOf lookup networkKey) s
  let s ← setIfGiven (fun s v => .ok (s.setBolt11Prefix v)) (valueOf lookup bolt11PrefixKey) s
  setIfGiven (fun s v => .ok (s.setStorageDir v)) (valueOf lookup storageDirKey) s

/-- The configuration that named variables describe. -/
def ofLookup (lookup : String → Option String) : Except Error Config := do
  (← settingsOf lookup).build

/-! ## Where things are -/

/-- The folder of the API. -/
def apiBase (c : Config) : Url := c.apiUrl.apiBase

/-- The event stream. -/
def eventsUrl (c : Config) : Except UrlError Url :=
  (c.apiBase.child? ["events"]).map fun page => page.withQuery [("stream", "events")]

/-- The delays between attempts to connect. -/
def backoff (c : Config) : Backoff := .between c.backoffFloor c.backoffCeiling

end Config
end LightningLottery
