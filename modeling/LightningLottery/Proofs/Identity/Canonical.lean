/-
  Identities in the form in which they are derived.

  * `nicknameOf_asciiLower`: a key has one nickname in either letter case.
  * `Identity.small`: an identity with both keys in small letters.
  * `Identity.Canonical`: an identity is just what its private key leads to.
  * `Identity.check_eq_ok_iff`: the check accepts what is so in small letters.
  * `Identity.canonical_iff`: an accepted identity is so itself if it has no capital letters.
  * `Ed25519.acceptsOwn`: a signature of a key over itself is accepted.
  * `Identity.verifyOwnership_signature`: then the signature of an identity proves that it owns its
    key.
-/
import LightningLottery.Proofs.Identity.Check
import LightningLottery.Proofs.Text.LetterCase

namespace LightningLottery

/-! ## Keys in either letter case -/

theorem nicknameOf_asciiLower {key : String} (h : isHexKey key = true) :
    nicknameOf (asciiLower key) = nicknameOf key := by
  have hlower : isHexKey (asciiLower key) = true := (isHexKey_asciiLower key).trans h
  have hindex : NicknamePool.bundled.indexOf (asciiLower key) = NicknamePool.bundled.indexOf key := by
    rw [NicknamePool.indexOf, NicknamePool.indexOf, NicknamePool.keyDigitsOf,
      NicknamePool.keyDigitsOf, if_pos hlower, if_pos h, hexNumber_asciiLower]
  exact congrArg NicknamePool.bundled.nameAt hindex

theorem publicKeyOf_asciiLower (privateKey : String) :
    publicKeyOf (asciiLower privateKey) = publicKeyOf privateKey := by
  rw [publicKeyOf, publicKeyOf, KeyPair.ofPrivateKey, KeyPair.ofPrivateKey, keyBytes, keyBytes,
    decodeHexKey_asciiLower]

theorem key_of_publicKeyOf {privateKey publicKey : String}
    (h : publicKeyOf privateKey = .ok publicKey) :
    isHexKey publicKey = true ∧ asciiLower publicKey = publicKey := by
  rw [publicKeyOf] at h
  cases hpair : KeyPair.ofPrivateKey privateKey with
  | error e =>
    rw [hpair] at h
    cases h
  | ok pair =>
    rw [hpair] at h
    cases h
    exact ⟨isHexKey_hexEncode (Ed25519.length_publicKey pair.secret), asciiLower_hexEncode _⟩

namespace Identity

variable {identity : Identity}

/-- The identity with both keys in small letters. -/
def small (identity : Identity) : Identity :=
  ⟨asciiLower identity.privateKey, asciiLower identity.publicKey, identity.nickname⟩

theorem small_eq_iff : identity.small = identity ↔
    asciiLower identity.privateKey = identity.privateKey ∧
      asciiLower identity.publicKey = identity.publicKey := by
  obtain ⟨privateKey, publicKey, nickname⟩ := identity
  simp only [small, mk.injEq, and_true]

theorem ofPrivateKey_eq (privateKey : String) :
    ofPrivateKey privateKey = (publicKeyOf privateKey).map fun publicKey =>
      ⟨asciiLower privateKey, publicKey, nicknameOf publicKey⟩ := by
  rw [ofPrivateKey, publicKeyOf_asciiLower]
  cases publicKeyOf privateKey <;> rfl

/-- **The check accepts an identity that is that of its private key in small letters.** -/
theorem check_eq_ok_iff :
    identity.check = .ok () ↔ ofPrivateKey identity.privateKey = .ok identity.small := by
  obtain ⟨privateKey, publicKey, nickname⟩ := identity
  rw [check, ofPrivateKey_eq]
  cases hderived : publicKeyOf privateKey with
  | error e => constructor <;> intro h <;> cases h
  | ok expected =>
    simp only [Except.map, small, Except.ok.injEq, mk.injEq, true_and]
    by_cases hkey : expected = asciiLower publicKey
    · -- the derived key is a key text, and so is the given one, as it differs in letter case alone
      have hhex : isHexKey publicKey = true := by
        rw [← isHexKey_asciiLower, ← hkey]
        exact (key_of_publicKeyOf hderived).1
      rw [if_neg (not_not.2 hkey), hkey, nicknameOf_asciiLower hhex]
      by_cases hname : nicknameOf publicKey = nickname
      · simp only [hname, ne_eq, not_true_eq_false, if_false, and_self]
      · simp only [hname, ne_eq, not_false_eq_true, if_true, and_false, reduceCtorEq]
    · simp only [hkey, ne_eq, not_false_eq_true, if_true, false_and, reduceCtorEq]

/-! ## Canonical identities -/

/-- The public key is the one derived from the private key, as a key text in small letters, and the
    whole is the identity of the private key. -/
structure Canonical (identity : Identity) : Prop where
  derived : publicKeyOf identity.privateKey = .ok identity.publicKey
  digits : isHexKey identity.publicKey = true
  lower : asciiLower identity.publicKey = identity.publicKey
  whole : ofPrivateKey identity.privateKey = .ok identity

/-- **An accepted identity is canonical if and only if its keys have no capital letters.** -/
theorem canonical_iff : identity.Canonical ↔ identity.check = .ok () ∧ identity.small = identity := by
  rw [check_eq_ok_iff]
  constructor
  · intro h
    have hwhole := h.whole
    rw [ofPrivateKey_eq, h.derived] at hwhole
    have hsmall : identity.small = identity :=
      small_eq_iff.2 ⟨congrArg privateKey (Except.ok.inj hwhole), h.lower⟩
    exact ⟨h.whole.trans (congrArg _ hsmall.symm), hsmall⟩
  · rintro ⟨hwhole, hsmall⟩
    rw [hsmall] at hwhole
    have hderived : publicKeyOf identity.privateKey = .ok identity.publicKey := by
      rw [ofPrivateKey_eq] at hwhole
      cases hkey : publicKeyOf identity.privateKey with
      | error e =>
        rw [hkey] at hwhole
        cases hwhole
      | ok key =>
        rw [hkey] at hwhole
        exact congrArg Except.ok (congrArg publicKey (Except.ok.inj hwhole))
    obtain ⟨hdigits, hlower⟩ := key_of_publicKeyOf hderived
    exact ⟨hderived, hdigits, hlower, hwhole⟩

/-- An accepted identity is that of its private key in small letters, and itself canonical only if
    it is in small letters. -/
theorem canonical_of_check (h : identity.check = .ok ()) :
    ofPrivateKey identity.privateKey = .ok identity.small ∧
      (identity.Canonical ↔ identity.small = identity) :=
  ⟨check_eq_ok_iff.1 h, canonical_iff.trans (and_iff_right h)⟩

theorem canonical_ofSecret {secret : Bytes} (h : secret.length = 32) :
    (ofSecret secret).Canonical :=
  canonical_iff.2 ⟨check_ofSecret h,
    small_eq_iff.2 ⟨asciiLower_hexEncode _, asciiLower_hexEncode _⟩⟩

end Identity

/-! ## Owning a key -/

theorem Ed25519.length_sign (secret message : Bytes) : (sign secret message).length = 64 := by
  rw [sign, List.length_append, length_toLittleEndian]
  exact congrArg (· + 32) (length_toLittleEndian 32 _)

/-- Verifying accepts what signing makes of the public key of a secret. -/
def Ed25519.acceptsOwn (secret : Bytes) : Bool :=
  (Point.decode? (publicKey secret)).any fun key =>
    verify (publicKey secret) key (publicKey secret) (sign secret (publicKey secret))

theorem signatureBytes_hexEncode {bytes : Bytes} (h : bytes.length = 64) :
    signatureBytes (hexEncode bytes) = .ok bytes := by
  simp only [signatureBytes, hexDecode?_hexEncode, h, signatureLength, if_true]

theorem verifyOwnership_hexEncode {publicKey : String} {key signature : Bytes}
    (hkey : decodeHexKey publicKey = .ok key) (hlength : signature.length = 64)
    (haccepts : (Ed25519.Point.decode? key).any fun point =>
      Ed25519.verify key point key signature) :
    verifyOwnership publicKey (hexEncode signature) = .ok () := by
  obtain ⟨point, hpoint, hverify⟩ := (Option.any_eq_true _ _).1 haccepts
  unfold verifyOwnership
  refine bind_eq_ok_iff.2 ⟨key, keyBytes_eq_ok_iff.2 hkey, ?_⟩
  rw [hpoint]
  exact bind_eq_ok_iff.2 ⟨signature, signatureBytes_hexEncode hlength, if_pos hverify⟩

namespace Identity

variable {identity : Identity}

theorem exists_secret_of_check (h : identity.check = .ok ()) :
    ∃ secret, decodeHexKey identity.privateKey = .ok secret ∧
      decodeHexKey identity.publicKey = .ok (Ed25519.publicKey secret) := by
  have hwhole := check_eq_ok_iff.1 h
  rw [ofPrivateKey_eq, publicKeyOf, KeyPair.ofPrivateKey] at hwhole
  cases hkey : keyBytes identity.privateKey with
  | error e =>
    rw [hkey] at hwhole
    cases hwhole
  | ok secret =>
    rw [hkey] at hwhole
    have hpublic : hexEncode (Ed25519.publicKey secret) = asciiLower identity.publicKey :=
      congrArg publicKey (Except.ok.inj hwhole)
    refine ⟨secret, keyBytes_eq_ok_iff.1 hkey, ?_⟩
    rw [← decodeHexKey_asciiLower, ← hpublic]
    exact decodeHexKey_hexEncode (Ed25519.length_publicKey secret)

/-- **The signature of an identity proves that it owns its key**, if verifying accepts what signing
    makes. -/
theorem verifyOwnership_signature (h : identity.check = .ok ())
    (haccepts : ∀ secret, decodeHexKey identity.privateKey = .ok secret →
      Ed25519.acceptsOwn secret = true) :
    ∃ signature, identity.signature = .ok signature ∧
      verifyOwnership identity.publicKey signature = .ok () := by
  obtain ⟨secret, hsecret, hkey⟩ := exists_secret_of_check h
  have hown := haccepts secret hsecret
  rw [Ed25519.acceptsOwn] at hown
  have hlength := Ed25519.length_sign secret (Ed25519.publicKey secret)
  have hverify := verifyOwnership_hexEncode hkey hlength hown
  exact ⟨_, signature_eq_ok_iff.2 ⟨secret, _, hsecret, hkey, rfl⟩, hverify⟩

end Identity

end LightningLottery
