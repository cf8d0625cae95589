/-
  URLs (WHATWG URL Standard).

  * `Url`: the parts of a URL, each in its written form.
  * `Url.text`: the written form of the whole.
  * `Url.apiBase`, `Url.child?`, `Url.withQuery`: the URLs made from one: the folder `api` below
    it, a page in its folder, and one with names and values in the query.
-/
import LightningLottery.Url.Address
import LightningLottery.Url.Fault
import LightningLottery.Url.Form
import LightningLottery.Url.Path

namespace LightningLottery

/-- Who is asked. -/
inductive Host where
  /-- A name; for schemes without a default port it is any text, and may be empty. -/
  | domain (name : String)
  | ipv4 (address : Nat)
  | ipv6 (groups : List Nat)
  deriving DecidableEq, Repr

/-- The written form of a host. -/
def Host.text : Host → String
  | .domain name => name
  | .ipv4 address => ipv4Text address
  | .ipv6 groups => "[" ++ ipv6Text groups ++ "]"

/-- Who is asked, in whose name, and at which port if not the usual one. -/
structure Authority where
  user : String
  password : Option String
  host : Host
  port : Option Nat
  deriving DecidableEq, Repr

/-- The written form of an authority. -/
def Authority.text (a : Authority) : String :=
  let password := match a.password with
    | some p => ":" ++ p
    | none => ""
  let login := if a.user.isEmpty && a.password.isNone then "" else a.user ++ password ++ "@"
  let port := match a.port with
    | some p => ":" ++ decimalText p
    | none => ""
  login ++ a.host.text ++ port

/-- The parts of a URL. A guard is a segment that means nothing, written before the path where that
    would be taken for an authority. -/
structure Url where
  scheme : String
  authority : Option Authority
  isGuarded : Bool
  path : UrlPath
  query : Option String
  fragment : Option String
  deriving DecidableEq, Repr

namespace Url

/-- A part that may be missing, with the sign before it. -/
def optionalText (sign : String) : Option String → String
  | some part => sign ++ part
  | none => ""

/-- What stands between scheme and path. -/
def leadText (authority : Option Authority) (isGuarded : Bool) : String :=
  match authority with
  | some a => "//" ++ a.text
  | none => if isGuarded then "/." else ""

/-- The written form of a URL. -/
def text (u : Url) : String :=
  u.scheme ++ ":" ++ leadText u.authority u.isGuarded ++ u.path.text ++
    optionalText "?" u.query ++ optionalText "#" u.fragment

/-- Whether requests can be sent there over HTTP. -/
def isHttp (u : Url) : Bool := u.scheme == "http" || u.scheme == "https"

/-! ## URLs made from one -/

/-- The URL with the folder of the API for its path. -/
def apiBase (u : Url) : Url := { u with path := apiFolder (.of u.scheme) u.path }

/-- The page with this path in the folder of a URL. A rootless path is no folder. -/
def child? (u : Url) (page : List String) : Except UrlError Url :=
  match u.path with
  | .rooted segments =>
    let path := UrlPath.rooted (segments.dropLast ++ page)
    .ok ⟨u.scheme, u.authority, u.authority.isNone && path.startsEmpty, path, none, none⟩
  | .rootless _ => .error .baseWithoutPath

/-- The URL with names and values for its query, unless there are none. -/
def withQuery (u : Url) (pairs : List Form.Pair) : Url :=
  if pairs.isEmpty then u else { u with query := some (String.ofList (Form.write pairs)) }

end Url
end LightningLottery
