/-
  The Lightning networks.

  * `Network.bolt11Prefix`: what invoices of a network start with.
  * `Network.parse`: the network that a name denotes, in any letter case and with blanks around it.
-/
import LightningLottery.Error
import LightningLottery.Text.Blank

namespace LightningLottery

/-- The network that a node runs on. -/
inductive Network where
  | mainnet
  | testnet
  | signet
  | regtest
  deriving DecidableEq, Repr

namespace Network

/-- What invoices of a network start with. -/
def bolt11Prefix : Network → String
  | .mainnet => "lnbc"
  | .testnet => "lntb"
  | .signet => "lntbs"
  | .regtest => "lnbcrt"

/-- The name of a network. -/
def name : Network → String
  | .mainnet => "mainnet"
  | .testnet => "testnet"
  | .signet => "signet"
  | .regtest => "regtest"

/-- The network that a name denotes. -/
def parse (s : String) : Except ConfigFault Network :=
  match asciiLower (trim s) with
  | "mainnet" | "bitcoin" => .ok .mainnet
  | "testnet" => .ok .testnet
  | "signet" => .ok .signet
  | "regtest" => .ok .regtest
  | other => .error (.unknownNetwork other)

end Network
end LightningLottery
