/-
  Identities whose parts belong together.

  * `Identity.check_ofSecret`, `Identity.keys_ofSecret`: the identity of a secret of 32 bytes is one
    of them, and its keys are key texts.
  * `Identity.isEmpty_of_check`: an identity that passes the check is not the empty one.
  * `Identity.signature_eq_ok_iff`: an identity can sign if both its keys are key texts.
-/
import LightningLottery.Identity.Basic
import LightningLottery.Proofs.Steps
import LightningLottery.Proofs.Text.Hex

namespace LightningLottery

theorem length_toLittleEndian (width n : Nat) : (toLittleEndian width n).length = width := by
  induction width generalizing n with
  | zero => rfl
  | succ width ih => rw [toLittleEndian, List.length_cons, ih]

theorem Ed25519.length_publicKey (secret : Bytes) : (publicKey secret).length = 32 :=
  length_toLittleEndian 32 _

theorem publicKeyOf_hexEncode {secret : Bytes} (h : secret.length = 32) :
    publicKeyOf (hexEncode secret) = .ok (hexEncode (Ed25519.publicKey secret)) := by
  rw [publicKeyOf, KeyPair.ofPrivateKey, keyBytes, decodeHexKey_hexEncode h]
  rfl

namespace Identity

theorem publicKey_ofSecret (secret : Bytes) :
    (ofSecret secret).publicKey = hexEncode (Ed25519.publicKey secret) := rfl

/-- **The identity of a secret passes the check.** -/
theorem check_ofSecret {secret : Bytes} (h : secret.length = 32) :
    (ofSecret secret).check = .ok () := by
  have hexpected : publicKeyOf (ofSecret secret).privateKey = .ok (ofSecret secret).publicKey :=
    publicKeyOf_hexEncode h
  have hlower : asciiLower (ofSecret secret).publicKey = (ofSecret secret).publicKey :=
    asciiLower_hexEncode _
  rw [check, hexpected]
  simp only [hlower, ne_eq, not_true_eq_false, if_false]
  exact if_neg (not_not.2 rfl)

theorem keys_ofSecret {secret : Bytes} (h : secret.length = 32) :
    decodeHexKey (ofSecret secret).privateKey = .ok secret ∧
      decodeHexKey (ofSecret secret).publicKey = .ok (Ed25519.publicKey secret) :=
  ⟨decodeHexKey_hexEncode h, decodeHexKey_hexEncode (Ed25519.length_publicKey secret)⟩

/-- **An identity that passes the check is not the empty one**: the empty text is no private key. -/
theorem isEmpty_of_check {identity : Identity} (h : identity.check = .ok ()) :
    identity.isEmpty = false := by
  rw [Bool.eq_false_iff]
  intro hempty
  simp only [isEmpty, Bool.and_eq_true, String.isEmpty_iff] at hempty
  have hnone : publicKeyOf "" = .error (.crypto (.invalidKeyFormat (.key .length))) := rfl
  rw [check, hempty.1.1, hnone] at h
  cases h

end Identity

/-! ## Signing -/

theorem keyBytes_eq_ok_iff {s : String} {bytes : Bytes} :
    keyBytes s = .ok bytes ↔ decodeHexKey s = .ok bytes := by
  unfold keyBytes
  cases decodeHexKey s with
  | ok bytes' => exact ⟨fun h => by cases h; rfl, fun h => by cases h; rfl⟩
  | error fault => exact ⟨nofun, nofun⟩

/-- **An identity can sign if both its keys are key texts**, and then signs its own public key. -/
theorem Identity.signature_eq_ok_iff {identity : Identity} {signature : String} :
    identity.signature = .ok signature ↔
      ∃ secret key, decodeHexKey identity.privateKey = .ok secret ∧
        decodeHexKey identity.publicKey = .ok key ∧ signature = (KeyPair.mk secret).sign key := by
  simp only [Identity.signature, signText, KeyPair.ofPrivateKey]
  constructor
  · intro h
    obtain ⟨pair, hpair, h⟩ := bind_eq_ok_iff.1 h
    obtain ⟨key, hkey, h⟩ := bind_eq_ok_iff.1 h
    cases hsecret : keyBytes identity.privateKey with
    | error e => rw [hsecret] at hpair; cases hpair
    | ok secret =>
      rw [hsecret] at hpair
      cases hpair
      cases h
      exact ⟨secret, key, keyBytes_eq_ok_iff.1 hsecret, keyBytes_eq_ok_iff.1 hkey, rfl⟩
  · rintro ⟨secret, key, hsecret, hkey, rfl⟩
    rw [keyBytes_eq_ok_iff.2 hsecret, keyBytes_eq_ok_iff.2 hkey]
    rfl

end LightningLottery
