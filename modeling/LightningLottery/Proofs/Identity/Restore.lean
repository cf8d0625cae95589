/-
  The identity that a text is restored to, for every text.

  * `IsKeyText`, `IsSeed`, `HasWideCharacter`: what decides about a text.
  * `Identity.StandsFor`: the 32 bytes that a text stands for, by three rules.
  * `Identity.exists_standsFor`: every text of at least twelve characters stands for some, or is a
    seed with a character above U+00FF.
  * `Identity.restore_eq_ok_iff`: a text is restored to the identity of the bytes it stands for.
  * `Identity.IsRestoredFrom`: what such an identity is like.
  * `Identity.restore_characterised`: when a text is restored, and what to.
-/
import LightningLottery.Proofs.Identity.Canonical
import LightningLottery.Proofs.Text.KeyText

namespace LightningLottery

/-! ## What a text stands for -/

/-- A text of 64 digits. -/
def IsKeyText (input : String) : Prop := input.length = 64 ∧ IsDigits input

/-- A text of 32 characters that are not digits alone. -/
def IsSeed (input : String) : Prop := input.length = 32 ∧ ¬ IsDigits input

/-- A character of the text is above U+00FF. -/
def HasWideCharacter (input : String) : Prop := ∃ c ∈ input.toList, 0xFF < c.toNat

instance (input : String) : Decidable (IsKeyText input) := inferInstanceAs (Decidable (_ ∧ _))

instance (input : String) : Decidable (IsSeed input) := inferInstanceAs (Decidable (_ ∧ _))

instance (input : String) : Decidable (HasWideCharacter input) := List.decidableBEx _ _

theorem le_of_not_hasWideCharacter {input : String} (h : ¬ HasWideCharacter input) :
    ∀ c ∈ input.toList, c.toNat ≤ 0xFF :=
  fun c hc => Nat.le_of_not_lt fun hwide => h ⟨c, hc, hwide⟩

theorem length_sha256 (message : Bytes) : (sha256 message).length = 32 := rfl

theorem keyBytes_length_error {s : String} (h : s.utf8ByteSize ≠ keyDigits) :
    keyBytes s = .error (.crypto (.invalidKeyFormat (.key .length))) := by
  rw [keyBytes, decodeHexKey, if_pos h]

namespace Identity

theorem normalizeRestore_eq (input : String) :
    normalizeRestore input =
      if input.length < 12 then .error (.validation (.invalidRestoreInput 12))
      else if IsKeyText input then .ok (asciiLower input)
      else if IsSeed input then .ok (hexEncodeText input)
      else .ok (digestText input) := by
  unfold normalizeRestore
  by_cases hshort : input.length < 12
  · rw [if_pos hshort]
    exact if_pos hshort
  rw [if_neg hshort, if_neg (show ¬ input.length < minRestoreLength from hshort)]
  by_cases hdigits : IsDigits input
  · have hhex : isHex input = true := isHex_iff.2 ⟨by omega, hdigits⟩
    have hseed : ¬ IsSeed input := fun h => h.2 hdigits
    have hkey : IsKeyText input ↔ input.utf8ByteSize = keyDigits := by
      rw [hdigits.utf8ByteSize]
      exact and_iff_left hdigits
    rw [if_pos hhex, if_neg hseed]
    simp only [hkey]
    split <;> rfl
  · have hhex : isHex input ≠ true := fun h => hdigits (isHex_iff.1 h).2
    have hkey : ¬ IsKeyText input := fun h => hdigits h.2
    have hseed : IsSeed input ↔ input.length = rawSeedLength := and_iff_left hdigits
    rw [if_neg hhex, if_neg hkey]
    simp only [hseed]

/-- The bytes that a text stands for: those of its digits if it is a key text, its code points if it
    is a seed, and else its digest. -/
inductive StandsFor (input : String) : Bytes → Prop
  | key {secret} : IsKeyText input → asciiLower input = hexEncode secret → secret.length = 32 →
      StandsFor input secret
  | seed : IsSeed input → ¬ HasWideCharacter input → StandsFor input (codeBytes input)
  | digest : 12 ≤ input.length → ¬ IsKeyText input → ¬ IsSeed input →
      StandsFor input (sha256 (utf8 input))

variable {input : String} {secret : Bytes} {identity : Identity}

theorem StandsFor.length (h : StandsFor input secret) : secret.length = 32 := by
  cases h with
  | key _ _ hlength => exact hlength
  | seed hseed _ => exact (length_codeBytes input).trans hseed.1
  | digest _ _ _ => exact length_sha256 _

theorem StandsFor.le_length (h : StandsFor input secret) : 12 ≤ input.length := by
  cases h with
  | key hkey _ _ => rw [hkey.1]; decide
  | seed hseed _ => rw [hseed.1]; decide
  | digest hlong _ _ => exact hlong

/-- **Every text of twelve characters or more stands for 32 bytes**, but for seeds with a wide
    character. -/
theorem exists_standsFor (input : String) :
    input.length < 12 ∨ IsSeed input ∧ HasWideCharacter input ∨ ∃ secret, StandsFor input secret := by
  by_cases hshort : input.length < 12
  · exact .inl hshort
  refine .inr ?_
  by_cases hkey : IsKeyText input
  · obtain ⟨secret, hsecret⟩ := exists_decodeHexKey_iff.2 hkey
    obtain ⟨hlength, hsmall⟩ := decodeHexKey_eq_ok_iff.1 hsecret
    exact .inr ⟨secret, .key hkey hsmall hlength⟩
  by_cases hseed : IsSeed input
  · by_cases hwide : HasWideCharacter input
    · exact .inl ⟨hseed, hwide⟩
    · exact .inr ⟨_, .seed hseed hwide⟩
  · exact .inr ⟨_, .digest (Nat.le_of_not_lt hshort) hkey hseed⟩

/-! ## What a text is restored to -/

theorem ofPrivateKey_hexEncode (h : secret.length = 32) :
    ofPrivateKey (hexEncode secret) = .ok (ofSecret secret) := by
  rw [ofPrivateKey_eq, publicKeyOf_hexEncode h, asciiLower_hexEncode]
  rfl

theorem restore_of_short (h : input.length < 12) :
    restore input = .error (.validation (.invalidRestoreInput 12)) := by
  rw [restore, normalizeRestore_eq, if_pos h]

theorem restore_of_wide (hseed : IsSeed input) (hwide : HasWideCharacter input) :
    restore input = .error (.crypto (.invalidKeyFormat (.key .length))) := by
  have hkey : ¬ IsKeyText input := fun h => hseed.2 h.2
  have hlong : ¬ input.length < 12 := by rw [hseed.1]; decide
  have hsize : (hexEncodeText input).utf8ByteSize ≠ keyDigits := by
    have hlt := lt_utf8ByteSize_hexEncodeText hwide
    rw [hseed.1] at hlt
    exact Nat.ne_of_gt hlt
  simp only [restore, normalizeRestore_eq, if_neg hlong, if_neg hkey, if_pos hseed]
  rw [ofPrivateKey_eq, publicKeyOf, KeyPair.ofPrivateKey, keyBytes_length_error hsize]
  rfl

/-- **A text is restored to the identity of the bytes that it stands for.** -/
theorem restore_of_standsFor (h : StandsFor input secret) :
    restore input = .ok (ofSecret secret) := by
  have hwritten : normalizeRestore input = .ok (hexEncode secret) := by
    rw [normalizeRestore_eq]
    cases h with
    | key hkey hsmall _ =>
      have hlong : ¬ input.length < 12 := by rw [hkey.1]; decide
      rw [if_neg hlong, if_pos hkey, hsmall]
    | seed hseed hwide =>
      have hlong : ¬ input.length < 12 := by rw [hseed.1]; decide
      have hkey : ¬ IsKeyText input := fun h => hseed.2 h.2
      rw [if_neg hlong, if_neg hkey, if_pos hseed,
        hexEncodeText_eq (le_of_not_hasWideCharacter hwide)]
    | digest hlong hkey hseed =>
      rw [if_neg (Nat.not_lt_of_le hlong), if_neg hkey, if_neg hseed, digestText]
  simp only [restore, hwritten, ofPrivateKey_hexEncode h.length]

theorem restore_eq_ok_iff :
    restore input = .ok identity ↔ ∃ secret, StandsFor input secret ∧ ofSecret secret = identity := by
  constructor
  · intro h
    rcases exists_standsFor input with hshort | ⟨hseed, hwide⟩ | ⟨secret, hsecret⟩
    · rw [restore_of_short hshort] at h
      cases h
    · rw [restore_of_wide hseed hwide] at h
      cases h
    · rw [restore_of_standsFor hsecret] at h
      exact ⟨secret, hsecret, Except.ok.inj h⟩
  · rintro ⟨secret, hsecret, rfl⟩
    exact restore_of_standsFor hsecret

/-- What an identity is like that is restored from a text. -/
structure IsRestoredFrom (input : String) (identity : Identity) : Prop where
  /-- A key text is the private key, in small letters. -/
  ofKeyText : IsKeyText input → identity.privateKey = asciiLower input
  /-- The private key of a seed is its code points, two digits each. -/
  ofSeed : IsSeed input → identity.privateKey = hexEncode (codeBytes input)
  ofDigest : ¬ IsKeyText input → ¬ IsSeed input →
    identity.privateKey = hexEncode (sha256 (utf8 input))
  /-- No other seed has the same private key. -/
  apart : IsSeed input → ∀ other found, IsSeed other → restore other = .ok found →
    found.privateKey = identity.privateKey → other = input
  digits : identity.privateKey.length = 64 ∧
    ∀ c ∈ identity.privateKey.toList, c ∈ "0123456789abcdef".toList
  accepted : identity.check = .ok ()
  /-- The signature proves that the player owns the key, if verifying accepts what signing makes. -/
  owned : (∀ secret, decodeHexKey identity.privateKey = .ok secret →
      Ed25519.acceptsOwn secret = true) →
    ∃ signature, identity.signature = .ok signature ∧
      verifyOwnership identity.publicKey signature = .ok ()
  /-- Its private key leads to it again, in either letter case. -/
  again : ∀ key, asciiLower key = identity.privateKey → restore key = .ok identity

theorem digits_ofSecret (h : secret.length = 32) :
    (ofSecret secret).privateKey.length = 64 ∧
      ∀ c ∈ (ofSecret secret).privateKey.toList, c ∈ "0123456789abcdef".toList := by
  have hsmall : ∀ n < 16, hexDigit n ∈ "0123456789abcdef".toList := by decide
  have htext : (ofSecret secret).privateKey.toList = secret.flatMap hexByte := String.toList_ofList
  refine ⟨?_, fun c hc => ?_⟩
  · rw [← String.length_toList, htext, length_flatMap_hexByte, h]
  · rw [htext] at hc
    obtain ⟨n, hn, rfl⟩ := exists_hexDigit hc
    exact hsmall n hn

theorem StandsFor.of_seed (hseed : IsSeed input) (h : StandsFor input secret) :
    ¬ HasWideCharacter input ∧ secret = codeBytes input := by
  cases h with
  | key hkey _ _ => exact absurd hkey.2 hseed.2
  | seed _ hwide => exact ⟨hwide, rfl⟩
  | digest _ _ hother => exact absurd hseed hother

theorem StandsFor.not_wide (h : StandsFor input secret) :
    ¬ (IsSeed input ∧ HasWideCharacter input) :=
  fun hwide => (h.of_seed hwide.1).1 hwide.2

theorem restore_of_asciiLower (h : secret.length = 32) {key : String}
    (hkey : asciiLower key = hexEncode secret) : restore key = .ok (ofSecret secret) :=
  restore_of_standsFor
    (.key (exists_decodeHexKey_iff.1 ⟨secret, decodeHexKey_eq_ok_iff.2 ⟨h, hkey⟩⟩) hkey h)

/-- **The identity of the bytes that a text stands for is `IsRestoredFrom` the text.** -/
theorem isRestoredFrom_ofSecret (h : StandsFor input secret) :
    IsRestoredFrom input (ofSecret secret) where
  ofKeyText hkey := by
    cases h with
    | key _ hsmall _ => exact hsmall.symm
    | seed hseed _ => exact absurd hkey.2 hseed.2
    | digest _ hother _ => exact absurd hkey hother
  ofSeed hseed := congrArg hexEncode (h.of_seed hseed).2
  ofDigest hkey hseed := by
    cases h with
    | key hkey' _ _ => exact absurd hkey' hkey
    | seed hseed' _ => exact absurd hseed' hseed
    | digest _ _ _ => rfl
  apart hseed other found hother hfound hsame := by
    obtain ⟨secret', hsecret', rfl⟩ := restore_eq_ok_iff.1 hfound
    obtain ⟨hwide, rfl⟩ := h.of_seed hseed
    obtain ⟨hwide', rfl⟩ := hsecret'.of_seed hother
    exact codeBytes_injective (le_of_not_hasWideCharacter hwide')
      (le_of_not_hasWideCharacter hwide) (hexEncode_injective hsame)
  digits := digits_ofSecret h.length
  accepted := check_ofSecret h.length
  owned := verifyOwnership_signature (check_ofSecret h.length)
  again _ hkey := restore_of_asciiLower h.length hkey

/-- **`restore` refuses exactly the texts of fewer than twelve characters and the seeds with a
    character above U+00FF**; every other text gives the identity of its digits, its code points or
    its digest (`IsRestoredFrom`). -/
theorem restore_characterised (input : String) :
    (restore input = .error (.validation (.invalidRestoreInput 12)) ↔ input.length < 12) ∧
    ((∃ cause, restore input = .error (.crypto (.invalidKeyFormat cause))) ↔
      IsSeed input ∧ HasWideCharacter input) ∧
    ((∃ identity, restore input = .ok identity) ↔
      12 ≤ input.length ∧ ¬ (IsSeed input ∧ HasWideCharacter input)) ∧
    ∀ identity, restore input = .ok identity → IsRestoredFrom input identity := by
  have hlast : ∀ identity, restore input = .ok identity → IsRestoredFrom input identity := by
    intro identity h
    obtain ⟨secret, hsecret, rfl⟩ := restore_eq_ok_iff.1 h
    exact isRestoredFrom_ofSecret hsecret
  rcases exists_standsFor input with hshort | hwide | ⟨secret, hsecret⟩
  · have hseed : ¬ IsSeed input := fun h => by rw [h.1] at hshort; omega
    have hrefused := restore_of_short hshort
    refine ⟨iff_of_true hrefused hshort, iff_of_false ?_ fun h => hseed h.1,
      iff_of_false ?_ fun h => Nat.not_lt_of_le h.1 hshort, hlast⟩
    · rw [hrefused]
      rintro ⟨cause, ⟨⟩⟩
    · rw [hrefused]
      rintro ⟨identity, ⟨⟩⟩
  · have hlong : ¬ input.length < 12 := by rw [hwide.1.1]; decide
    have hrefused := restore_of_wide hwide.1 hwide.2
    refine ⟨iff_of_false ?_ hlong, iff_of_true ⟨_, hrefused⟩ hwide,
      iff_of_false ?_ fun h => h.2 hwide, hlast⟩
    · rw [hrefused]
      rintro ⟨⟩
    · rw [hrefused]
      rintro ⟨identity, ⟨⟩⟩
  · have hfound := restore_of_standsFor hsecret
    have hlong := hsecret.le_length
    have hnarrow := hsecret.not_wide
    refine ⟨iff_of_false ?_ (Nat.not_lt_of_le hlong), iff_of_false ?_ hnarrow,
      iff_of_true ⟨_, hfound⟩ ⟨hlong, hnarrow⟩, hlast⟩
    · rw [hfound]
      rintro ⟨⟩
    · rw [hfound]
      rintro ⟨cause, ⟨⟩⟩

/-- A seed that is no ASCII, but has no character above U+00FF. -/
def accentedSeed : String := "un café crème à 12 $ sans 4,50 ÿ"

/-- A seed of accented letters gives the identity of its code points, which proves ownership of its
    key. -/
theorem restore_accentedSeed : ∃ identity signature, restore accentedSeed = .ok identity ∧
    identity.privateKey = hexEncode (codeBytes accentedSeed) ∧
    identity.signature = .ok signature ∧
    verifyOwnership identity.publicKey signature = .ok () := by
  have hseed : IsSeed accentedSeed := by decide +kernel
  have hnarrow : ¬ HasWideCharacter accentedSeed := by decide +kernel
  have haccepts : Ed25519.acceptsOwn (codeBytes accentedSeed) = true := by decide +kernel
  obtain ⟨-, -, hfound, hrestored⟩ := restore_characterised accentedSeed
  obtain ⟨identity, hidentity⟩ :=
    hfound.2 ⟨by rw [hseed.1]; decide, fun hwide => hnarrow hwide.2⟩
  have h := hrestored identity hidentity
  have hkey := h.ofSeed hseed
  obtain ⟨signature, hsignature, hverify⟩ := h.owned fun secret hsecret => by
    have hread := decodeHexKey_hexEncode ((length_codeBytes accentedSeed).trans hseed.1)
    rw [hkey, hread] at hsecret
    cases hsecret
    exact haccepts
  exact ⟨identity, signature, hidentity, hkey, hsignature, hverify⟩

end Identity
end LightningLottery
