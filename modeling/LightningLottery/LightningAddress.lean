/-
  Lightning addresses (LUD-16): `name@domain.tld`.

  * `LightningAddress.parts?`: the two sides of a well-formed address.
  * `LightningAddress.wellKnownUrl`: where a wallet looks the address up.
-/
import LightningLottery.Error
import LightningLottery.Text.Split

namespace LightningLottery.LightningAddress

/-- The two sides of an address: exactly one `@`, something on both sides, a dot in the domain, and
    no blank anywhere. -/
def parts? (address : String) : Option (List Char × List Char) :=
  match splitFirst? '@' address.toList with
  | none => none
  | some (name, domain) =>
    if !name.isEmpty && !domain.isEmpty && !domain.contains '@' && domain.contains '.' &&
        !address.toList.any isBlank then some (name, domain)
    else none

/-- Accepts a well-formed address. -/
def validate (address : String) : Except Error Unit :=
  if (parts? address).isSome then .ok () else .error (.validation .invalidAddress)

/-- The URL that an address resolves through. -/
def wellKnownUrl (address : String) : Except Error String :=
  match parts? address with
  | none => .error (.validation .invalidAddress)
  | some (name, domain) =>
    .ok ("https://" ++ String.ofList domain ++ "/.well-known/lnurlp/" ++ String.ofList name)

end LightningLottery.LightningAddress
