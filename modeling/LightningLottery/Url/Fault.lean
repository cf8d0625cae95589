/-
  What can be wrong with a URL.

  * `UrlError`: why a text is no URL, or cannot be joined to one.
-/

namespace LightningLottery

/-- Why a text is no URL, or cannot be joined to one. -/
inductive UrlError where
  | relativeWithoutBase
  | emptyHost
  | invalidPort
  | invalidIpv6
  | invalidIpv4
  | invalidDomain
  | invalidDomainCharacter
  | baseWithoutPath
  deriving DecidableEq, Repr

/-- The wording of an error. -/
def UrlError.message : UrlError → String
  | .relativeWithoutBase => "relative URL without a base"
  | .emptyHost => "empty host"
  | .invalidPort => "invalid port number"
  | .invalidIpv6 => "invalid IPv6 address"
  | .invalidIpv4 => "invalid IPv4 address"
  | .invalidDomain => "invalid international domain name"
  | .invalidDomainCharacter => "invalid domain character"
  | .baseWithoutPath => "relative URL with a cannot-be-a-base base"

end LightningLottery
