/-
  Reading URLs.

  * `Url.parse`: the URL that a text denotes, or the first thing that is wrong with it.

  Characters up to the space are left out at the ends, tabs and line breaks everywhere. A special
  scheme is one with a default port: there a backslash is as good as a slash, the host is a name or
  an address, and the path is never empty.
-/
import LightningLottery.Url.Basic
import LightningLottery.Url.Domain

namespace LightningLottery
namespace Url

/-! ## Scheme -/

/-- A character of a scheme. -/
def isSchemeChar (c : Char) : Bool := c.isAlphanum || c == '+' || c == '-' || c == '.'

/-- The scheme in small letters, and what follows its colon. -/
def splitScheme? (cs : List Char) : Option (String × List Char) :=
  match cs.head?, cs.dropWhile isSchemeChar with
  | some c, ':' :: rest =>
    if c.isAlpha then some (asciiLower (String.ofList (cs.takeWhile isSchemeChar)), rest) else none
  | _, _ => none

/-! ## Authority -/

/-- User name and password of a login; a password that is empty counts as none. -/
def readLogin (login : List Char) : String × Option String :=
  let encoded := fun cs => String.ofList (Percent.encode Percent.inUserinfo cs)
  match splitFirst? ':' login with
  | none => (encoded login, none)
  | some (user, []) => (encoded user, none)
  | some (user, password) => (encoded user, some (encoded password))

/-- The host in front of a text that a colon outside of brackets ends. -/
def takeHost (bracketed : Bool) : List Char → List Char
  | [] => []
  | c :: cs =>
    if c == ':' && !bracketed then []
    else c :: takeHost (if c == '[' then true else if c == ']' then false else bracketed) cs

/-- The address in brackets that a host is, if it starts with a bracket. -/
def bracketHost? : List Char → Option (Except UrlError Host)
  | '[' :: cs =>
    some <| match cs.reverse with
      | ']' :: inner =>
        match readIpv6 inner.reverse with
        | some groups => .ok (.ipv6 groups)
        | none => .error .invalidIpv6
      | _ => .error .invalidIpv6
  | _ => none

/-- What the host of a scheme that is not special does not hold. -/
def isForbiddenInHost (c : Char) : Bool :=
  c.toNat == 0 || "\t\n\r #/:<>?@[\\]^|".toList.contains c

/-- A host of a scheme that is not special. -/
def readOtherHost (cs : List Char) : Except UrlError Host :=
  match bracketHost? cs with
  | some host => host
  | none =>
    if cs.any isForbiddenInHost then .error .invalidDomainCharacter
    else .ok (.domain (String.ofList (Percent.encode Percent.controls cs)))

/-- The name that a host written with percent triples denotes. -/
def readName (cs : List Char) : Except UrlError (List Char) :=
  match Utf8.decode (Percent.decode (cs.flatMap String.utf8EncodeChar)) with
  | .error _ => .error .invalidDomain
  | .ok name =>
    match Domain.toAscii? name.toList with
    | none => .error .invalidDomain
    | some ascii => .ok ascii

/-- A host of a special scheme: an address if its last part is a number, and a name otherwise. -/
def readSpecialHost (cs : List Char) : Except UrlError Host :=
  match bracketHost? cs with
  | some host => host
  | none => do
    let name ← readName cs
    if name.isEmpty then .error .emptyHost
    else if endsInNumber name then
      match readIpv4 name with
      | some address => .ok (.ipv4 address)
      | none => .error .invalidIpv4
    else .ok (.domain (String.ofList name))

/-- The port after a host: none if there is no colon or no digit after it, or if it is the usual
    one. Also what follows it. -/
def readPort (kind : SchemeKind) : List Char → Except UrlError (Option Nat × List Char)
  | ':' :: cs =>
    let digits := cs.takeWhile Char.isDigit
    let rest := cs.dropWhile Char.isDigit
    let port := (digitsValue? 10 digits).getD 0
    if 65535 < port then .error .invalidPort
    else if !rest.isEmpty && !(rest.head?.any fun c => "/\\?#".toList.contains c) then
      .error .invalidPort
    else if digits.isEmpty || kind == .special port then .ok (none, rest)
    else .ok (some port, rest)
  | cs => .ok (none, cs)

/-- The authority after two slashes, and what follows it. -/
def readAuthority (kind : SchemeKind) (cs : List Char) :
    Except UrlError (Authority × List Char) := do
  let given := cs.takeWhile fun c => !kind.endsAuthority c
  let after := cs.drop given.length
  let (login, hostAndPort) := (splitLast? '@' given).getD ([], given)
  let (user, password) := readLogin login
  let hostText := takeHost false hostAndPort
  if hostText.isEmpty && kind.isSpecial then .error .emptyHost
  let host ← if kind.isSpecial then readSpecialHost hostText else readOtherHost hostText
  let portText := hostAndPort.drop hostText.length
  let anonymous := user.isEmpty && password.isNone
  let bareSign := login.isEmpty && given.head? == some '@' && !after.isEmpty
  if hostText.isEmpty && (!portText.isEmpty || !anonymous || bareSign) then .error .emptyHost
  let (port, rest) ← readPort kind (portText ++ after)
  return (⟨user, password, host, port⟩, rest)

/-! ## Path, query and fragment -/

/-- The segments of a path without the slash in front. -/
def readSegments (kind : SchemeKind) (cs : List Char) : List String :=
  let slashed := cs.map fun c => if kind.isSlash c then '/' else c
  (walk kind [] (splitOn '/' slashed)).map String.ofList

/-- The path after an authority: it may be missing unless the scheme is special. -/
def readPath (kind : SchemeKind) (cs : List Char) : UrlPath :=
  match cs with
  | [] => if kind.isSpecial then .rooted [""] else .rooted []
  | c :: rest => .rooted (readSegments kind (if kind.isSlash c then rest else cs))

/-- The path, the query and the fragment of a text. -/
def splitTail (cs : List Char) : List Char × Option (List Char) × Option (List Char) :=
  let (rest, fragment) := match splitFirst? '#' cs with
    | some (rest, fragment) => (rest, some fragment)
    | none => (cs, none)
  match splitFirst? '?' rest with
  | some (path, query) => (path, some query, fragment)
  | none => (rest, none, fragment)

/-- The written form of a query. -/
def queryText (kind : SchemeKind) (query : List Char) : String :=
  String.ofList
    (Percent.encode (if kind.isSpecial then Percent.inSpecialQuery else Percent.inQuery) query)

/-- The written form of a fragment. -/
def fragmentText (fragment : List Char) : String :=
  String.ofList (Percent.encode Percent.inFragment fragment)

/-! ## The whole -/

/-- The text of a URL from the path on, and the authority and the path that the text of the path
    makes. -/
structure Place where
  rest : List Char
  close : List Char → Option Authority × UrlPath

/-- The authority of a file at a host. -/
def fileAuthority (host : Host) : Option Authority := some ⟨"", none, host, none⟩

/-- The place of a file after its host. A path that starts with a drive needs no host. -/
def filePlace (host : Host) (rest : List Char) : Place :=
  ⟨rest, fun path =>
    let inner := if path.head?.any SchemeKind.file.isSlash then path.tail else path
    let segments := readSegments .file inner
    let onDrive := segments.head?.any fun first => isDrive first.toList
    (fileAuthority (if onDrive then .domain "" else host), .rooted (dropLeadingEmpty segments))⟩

/-- The place of a file: its host may be missing, a drive is no host, and `localhost` is none. -/
def readFile (cs : List Char) : Except UrlError Place := do
  let isSlash := SchemeKind.file.isSlash
  match cs with
  | c :: d :: rest =>
    if isSlash c && isSlash d then
      let hostText := rest.takeWhile fun c => !SchemeKind.file.endsAuthority c
      if hostText.isEmpty || isDrive hostText then return filePlace (.domain "") rest
      let host ← readSpecialHost hostText
      let host := if host = .domain "localhost" then .domain "" else host
      return filePlace host (rest.drop hostText.length)
    else return filePlace (.domain "") cs
  | cs => return filePlace (.domain "") cs

/-- The place of a URL of a scheme that is not special. -/
def readOther (cs : List Char) : Except UrlError Place :=
  match cs with
  | '/' :: '/' :: rest => do
    let (authority, rest) ← readAuthority .other rest
    return ⟨rest, fun path => (some authority, readPath .other path)⟩
  | '/' :: rest => .ok ⟨rest, fun path => (none, .rooted (readSegments .other path))⟩
  | text => .ok ⟨text, fun path =>
      (none, .rootless (String.ofList (Percent.encode Percent.controls path)))⟩

/-- The place of a URL. -/
def readPlace (kind : SchemeKind) (cs : List Char) : Except UrlError Place :=
  match kind with
  | .special _ => do
    let (authority, rest) ← readAuthority kind (cs.dropWhile kind.isSlash)
    return ⟨rest, fun path => (some authority, readPath kind path)⟩
  | .file => readFile cs
  | .other => readOther cs

/-- Left out at the ends. -/
def isEdge (c : Char) : Bool := c.toNat ≤ 0x20

/-- Left out everywhere. -/
def isBreak (c : Char) : Bool := c == '\t' || c == '\n' || c == '\r'

/-- What of a text counts. -/
def significant (cs : List Char) : List Char :=
  (dropWhileRight isEdge (cs.dropWhile isEdge)).filter fun c => !isBreak c

/-- The URL that a text denotes. -/
def parse (s : String) : Except UrlError Url :=
  match splitScheme? (significant s.toList) with
  | none => .error .relativeWithoutBase
  | some (scheme, rest) => do
    let kind := SchemeKind.of scheme
    let place ← readPlace kind rest
    let (path, query, fragment) := splitTail place.rest
    let (authority, path) := place.close path
    return ⟨scheme, authority, authority.isNone && path.startsEmpty, path,
      query.map (queryText kind), fragment.map fragmentText⟩

end Url
end LightningLottery
