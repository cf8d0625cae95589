/-
  A client of the lottery server.

  * `ApiClient`: where the server is, in whose name requests go, and the signal that aborts them.
  * `ApiClient.launch`: the request that an endpoint asks for, on its way.
  * `ApiClient.poll`: the result of a request on its way, if there is one yet.
  * `ApiClient.abort`: ends every request on its way, and none that begins later.
-/
import LightningLottery.Api.Endpoint
import LightningLottery.Api.Refusal
import LightningLottery.Text.Quoted

namespace LightningLottery

/-! ## Aborting -/

/-- The signal that new requests listen to, and those that were given before. -/
structure AbortSignal where
  current : Nat
  given : List Nat
  deriving DecidableEq, Repr

namespace AbortSignal

/-- No signal was given yet. -/
def fresh : AbortSignal := ⟨0, []⟩

/-- Gives the current signal; new requests listen to the next one. -/
def fire (s : AbortSignal) : AbortSignal := ⟨s.current + 1, s.current :: s.given⟩

/-- Whether a signal was given. -/
def isGiven (s : AbortSignal) (signal : Nat) : Bool := s.given.contains signal

end AbortSignal

/-! ## Requests on their way -/

/-- A request on its way, and the signal that aborts it; its reply is an `α`. -/
structure Flight (α : Type) where
  request : Request
  signal : Nat
  deriving DecidableEq, Repr

/-- What a reply says: the statuses with a meaning of their own come first, then all other
    refusals, and only then is the body read. -/
def Exchange.result (α : Type) [Wire α] (target : Url) : Exchange → Except Error α
  | .unanswered => .error (.network .send)
  | .cutShort => .error (.network .readBody)
  | .answered status body =>
    if status = tooManyRequests then .error .rateLimited
    else if status = notFoundStatus then .error (.notFound target.text)
    else if status = noContent then .error (.emptyResponse target.text)
    else if !isSuccess status then .error (.httpStatus status (refusalMessage body))
    else (Wire.decode body).mapError .json

/-! ## The client -/

/-- A client of the server. -/
structure ApiClient where
  /-- The folder of the API. -/
  base : Url
  userAgent : String
  /-- Requests go in the name of this key; in nobody's if it is empty. -/
  publicKey : String
  signal : AbortSignal
  deriving DecidableEq, Repr

namespace ApiClient

/-- What clients call themselves where nothing else is set. -/
def defaultUserAgent : String := "btry-client/0.1.0"

/-- A client of the server at a URL. A name that cannot be sent is replaced by the usual one. -/
def create (apiUrl : Url) (publicKey : String) (userAgent : Option String) : ApiClient :=
  ⟨apiUrl.apiBase, (userAgent.filter isHeaderValue).getD defaultUserAgent, publicKey, .fresh⟩

/-- A client of the server at a URL, with nothing else set. -/
def ofUrl (apiUrl : Url) : ApiClient := create apiUrl "" none

/-- Requests go in the name of this key from now on. -/
def setPublicKey (client : ApiClient) (publicKey : String) : ApiClient :=
  { client with publicKey := publicKey }

/-- Ends every request on its way. -/
def abort (client : ApiClient) : ApiClient := { client with signal := client.signal.fire }

/-- A client in one line. -/
def describe (client : ApiClient) : String :=
  "ApiClient \x7b base: " ++ quoted client.base.text ++ " \x7d"

/-- The URL of an endpoint. -/
def urlOf {α : Type} (client : ApiClient) (endpoint : Endpoint α) : Except Error Url :=
  match client.base.child? endpoint.page with
  | .ok page => .ok (page.withQuery endpoint.parameters)
  | .error cause => .error (.url cause)

/-- The URL where a wallet starts a withdrawal. -/
def withdrawalUrl (client : ApiClient) (publicKey signature : String) : Except Error Url :=
  client.urlOf (.withdrawalOffer publicKey signature)

/-- In whose name requests go. -/
def authorization (client : ApiClient) : Option String :=
  if client.publicKey.isEmpty then none else some ("Bearer " ++ client.publicKey)

/-- The request for a page. -/
def requestFor (client : ApiClient) (method : Method) (page : Url) : Request where
  method := method
  url := page
  accept := "application/json"
  authorization := client.authorization
  contentType := match method with
    | .get => none
    | .post => some "application/json; charset=UTF-8"
  userAgent := some client.userAgent
  cacheControl := none

/-- The request that an endpoint asks for, on its way. A key that cannot be sent keeps it from going
    out. -/
def launch {α : Type} (client : ApiClient) (endpoint : Endpoint α) : Except Error (Flight α) := do
  let page ← client.urlOf endpoint
  if client.authorization.any fun value => !isHeaderValue value then .error (.network .send)
  else return ⟨client.requestFor endpoint.method page, client.signal.current⟩

/-- Whether a request on its way was told to end. -/
def isAborted {α : Type} (client : ApiClient) (flight : Flight α) : Bool :=
  client.signal.isGiven flight.signal

/-- The result of a request of which this became. A signal to abort comes first, even if there is a
    reply. -/
def land {α : Type} [Wire α] (client : ApiClient) (flight : Flight α) (exchange : Exchange) :
    Except Error α :=
  if client.isAborted flight then .error .aborted else exchange.result α flight.request.url

/-- The result of a request on its way, `ready` being what became of it so far. -/
def poll {α : Type} [Wire α] (client : ApiClient) (flight : Flight α) (ready : Option Exchange) :
    Option (Except Error α) :=
  if client.isAborted flight then some (.error .aborted) else ready.map (client.land flight)

/-- Where requests go: what becomes of each. -/
abbrev Server := Request → Exchange

/-- Asks a server and waits for the result. -/
def ask {α : Type} [Wire α] (client : ApiClient) (server : Server) (endpoint : Endpoint α) :
    Except Error α := do
  let flight ← client.launch endpoint
  client.land flight (server flight.request)

end ApiClient
end LightningLottery
