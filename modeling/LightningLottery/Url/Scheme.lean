/-
  The kinds of schemes of URLs.

  * `SchemeKind.of`: special schemes, which have a default port, files, and all others.
  * `SchemeKind.isSlash`, `SchemeKind.endsAuthority`: how the rest of a URL is cut.
-/

namespace LightningLottery

/-- What a scheme says about the rest of a URL. -/
inductive SchemeKind where
  /-- It names a service with a default port. -/
  | special (port : Nat)
  /-- Its host may be missing, and its paths may start with a drive. -/
  | file
  /-- Nothing is known about it. -/
  | other
  deriving DecidableEq, Repr

/-- The kind of a scheme. -/
def SchemeKind.of (scheme : String) : SchemeKind :=
  if scheme = "http" || scheme = "ws" then .special 80
  else if scheme = "https" || scheme = "wss" then .special 443
  else if scheme = "ftp" then .special 21
  else if scheme = "file" then .file
  else .other

/-- Whether a backslash is as good as a slash. -/
def SchemeKind.isSpecial : SchemeKind → Bool
  | .other => false
  | _ => true

/-- Whether a character separates segments. -/
def SchemeKind.isSlash (kind : SchemeKind) (c : Char) : Bool :=
  c == '/' || (kind.isSpecial && c == '\\')

/-- Whether a character ends the part before the path. -/
def SchemeKind.endsAuthority (kind : SchemeKind) (c : Char) : Bool :=
  kind.isSlash c || c == '?' || c == '#'

end LightningLottery
