/-
  The human-readable part of a payment request: `ln`, a currency, and perhaps an amount.

  * `Currency`: the networks that have a code.
  * `Multiplier`: the letter after the digits of an amount, a fraction of a bitcoin.
  * `HumanPart.parse`: reads the part; its shape is judged before the currency, the currency
    before the amount.
  * `HumanPart.picoBitcoin`: the amount in units of 10⁻¹² bitcoin, the smallest multiplier.
-/
import LightningLottery.Invoice.Fault
import LightningLottery.Word64

namespace LightningLottery

/-- The networks that have a code. -/
inductive Currency where
  | bitcoin
  | bitcoinTestnet
  | regtest
  | simnet
  | signet
  deriving DecidableEq, Repr

/-- The code of a network. -/
def Currency.code : Currency → String
  | .bitcoin => "bc"
  | .bitcoinTestnet => "tb"
  | .regtest => "bcrt"
  | .simnet => "sb"
  | .signet => "tbs"

/-- All networks that have a code. -/
def Currency.all : List Currency := [.bitcoin, .bitcoinTestnet, .regtest, .simnet, .signet]

/-- The network of a code. -/
def Currency.ofCode? (code : List Char) : Option Currency :=
  all.find? fun currency => currency.code.toList == code

/-- The fraction of a bitcoin that an amount counts. -/
inductive Multiplier where
  | milli
  | micro
  | nano
  | pico
  deriving DecidableEq, Repr

/-- The fraction of a letter. -/
def Multiplier.ofLetter? : Char → Option Multiplier
  | 'm' => some .milli
  | 'u' => some .micro
  | 'n' => some .nano
  | 'p' => some .pico
  | _ => none

/-- How many units of 10⁻¹² bitcoin a fraction is. -/
def Multiplier.picoBitcoin : Multiplier → Nat
  | .milli => 1000000000
  | .micro => 1000000
  | .nano => 1000
  | .pico => 1

/-- How many units of 10⁻¹² bitcoin a bitcoin is. -/
def picoBitcoinPerBitcoin : Nat := 1000000000000

/-- The human-readable part of a payment request. -/
structure HumanPart where
  currency : Currency
  amount : Option Nat
  multiplier : Option Multiplier
  deriving DecidableEq, Repr

namespace HumanPart

/-- The amount that digits denote, none if there are no digits. -/
def parseAmount (digits : List Char) : Except InvoiceFault (Option Nat) :=
  let n := digits.foldl (fun n c => n * 10 + (c.toNat - 48)) 0
  if digits.isEmpty then .ok none
  else if n < wordLimit then .ok (some n)
  else .error .amountTooLarge

/-- The multiplier in what follows the digits: nothing, or one known letter. -/
def parseMultiplier : List Char → Except InvoiceFault (Option Multiplier)
  | [] => .ok none
  | c :: rest =>
    match Multiplier.ofLetter? c with
    | none => .error .unknownMultiplier
    | some m => if rest.isEmpty then .ok (some m) else .error .malformedHrp

/-- Reads a human-readable part in small letters. -/
def parse (hrp : List Char) : Except InvoiceFault HumanPart :=
  match hrp with
  | 'l' :: 'n' :: rest => do
    if rest.isEmpty then .error .malformedHrp else pure ()
    let code := rest.takeWhile fun c => !c.isDigit
    let afterCode := rest.dropWhile fun c => !c.isDigit
    let multiplier ← parseMultiplier (afterCode.dropWhile Char.isDigit)
    match Currency.ofCode? code with
    | none => .error .unknownCurrency
    | some currency =>
      let amount ← parseAmount (afterCode.takeWhile Char.isDigit)
      match amount, multiplier with
      | some n, some m =>
        if n * m.picoBitcoin < wordLimit then .ok ⟨currency, some n, some m⟩
        else .error .integerOverflow
      | amount, multiplier => .ok ⟨currency, amount, multiplier⟩
  | _ => .error .malformedHrp

/-- The amount in units of 10⁻¹² bitcoin, if there is one and it takes at most 64 bits. -/
def picoBitcoin (part : HumanPart) : Option Nat :=
  match part.amount with
  | none => none
  | some n =>
    let unit := match part.multiplier with
      | some m => m.picoBitcoin
      | none => picoBitcoinPerBitcoin
    if n * unit < wordLimit then some (n * unit) else none

end HumanPart

end LightningLottery
