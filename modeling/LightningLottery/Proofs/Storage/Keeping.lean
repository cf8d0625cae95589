/-
  A stored identity is kept: what is asked for is loaded, and generated only where none is stored.

  * `Identity.Coherent`, `Identity.Corrupt`: identities whose parts belong together, and what is
    wrong with the others; `Identity.check_of_coherent`, `Identity.check_of_corrupt`.
  * `Storage.Stores`, `Storage.IsVacant`: a record is stored that reads as an identity, or none is;
    `Storage.isVacant_or_stores`: or loading fails.
  * `Storage.load_of_stores`, `Storage.load_of_isVacant`: what is loaded.
  * `Storage.loadOrGenerateBy`: a call whose save may fail at any step.
  * `Storage.Keeps`: what it answers, and what it leaves of the storage, as the storage has an
    identity (`GivesStored`), has none (`GivesFresh`), or cannot be read.
  * `Storage.loadOrGenerate_keeps`: so it is with every storage.
-/
import LightningLottery.Proofs.Identity.Restore
import LightningLottery.Proofs.Storage.Answers

namespace LightningLottery

/-! ## Parts that belong together -/

theorem exists_publicKeyOf_iff {privateKey : String} :
    (∃ publicKey, publicKeyOf privateKey = .ok publicKey) ↔ IsKeyText privateKey := by
  rw [IsKeyText, ← exists_decodeHexKey_iff, publicKeyOf, KeyPair.ofPrivateKey]
  simp only [← keyBytes_eq_ok_iff]
  cases keyBytes privateKey with
  | error e => simp [Except.map]
  | ok bytes => simp [Except.map]

namespace Identity

variable {identity : Identity}

/-- The private key is a key text in either letter case, the public key is the one derived from it,
    letter case aside, and the nickname is that of the derived key. -/
structure Coherent (identity : Identity) : Prop where
  digits : IsKeyText identity.privateKey
  derived : publicKeyOf identity.privateKey = .ok (asciiLower identity.publicKey)
  named : identity.nickname = nicknameOf (asciiLower identity.publicKey)

/-- The first part of an identity that does not belong to those before. -/
inductive Corrupt (identity : Identity) : RecordFault → Prop
  | privateKey : ¬ IsKeyText identity.privateKey → Corrupt identity .privateKey
  | publicKey {derived} : publicKeyOf identity.privateKey = .ok derived →
      asciiLower identity.publicKey ≠ derived → Corrupt identity .publicKey
  | nickname : publicKeyOf identity.privateKey = .ok (asciiLower identity.publicKey) →
      identity.nickname ≠ nicknameOf (asciiLower identity.publicKey) → Corrupt identity .nickname

theorem coherent_or_corrupt (identity : Identity) :
    identity.Coherent ∨ ∃ fault, identity.Corrupt fault := by
  by_cases hdigits : IsKeyText identity.privateKey
  · obtain ⟨derived, hderived⟩ := exists_publicKeyOf_iff.2 hdigits
    by_cases hkey : asciiLower identity.publicKey = derived
    · subst hkey
      by_cases hname : identity.nickname = nicknameOf (asciiLower identity.publicKey)
      · exact .inl ⟨hdigits, hderived, hname⟩
      · exact .inr ⟨_, .nickname hderived hname⟩
    · exact .inr ⟨_, .publicKey hderived hkey⟩
  · exact .inr ⟨_, .privateKey hdigits⟩

/-- A public key that differs from the derived one in letter case alone has the same nickname. -/
theorem nicknameOf_of_derived
    (h : publicKeyOf identity.privateKey = .ok (asciiLower identity.publicKey)) :
    nicknameOf (asciiLower identity.publicKey) = nicknameOf identity.publicKey := by
  obtain ⟨hhex, -⟩ := key_of_publicKeyOf h
  exact nicknameOf_asciiLower ((isHexKey_asciiLower _).symm.trans hhex)

theorem check_of_coherent (h : identity.Coherent) : identity.check = .ok () := by
  have hname : nicknameOf identity.publicKey = identity.nickname :=
    (h.named.trans (nicknameOf_of_derived h.derived)).symm
  rw [check, h.derived]
  simp [hname]

/-- **The check names the first part that does not belong to those before.** -/
theorem check_of_corrupt {fault : RecordFault} (h : identity.Corrupt fault) :
    identity.check = .error (.crypto (.corruptedIdentity fault)) := by
  cases h with
  | privateKey hdigits =>
    cases hderived : publicKeyOf identity.privateKey with
    | error e => rw [check, hderived]
    | ok derived => exact absurd (exists_publicKeyOf_iff.1 ⟨derived, hderived⟩) hdigits
  | publicKey hderived hkey =>
    rw [check, hderived]
    simp [Ne.symm hkey]
  | nickname hderived hname =>
    have hname' : nicknameOf identity.publicKey ≠ identity.nickname := by
      rw [← nicknameOf_of_derived hderived]
      exact Ne.symm hname
    rw [check, hderived]
    simp [hname']

end Identity

namespace Storage

variable {storage : Storage} {course : SaveCourse} {fresh identity : Identity}

/-! ## What is stored -/

/-- A record is stored that reads as this identity. -/
def Stores : Storage → Identity → Prop
  | .memory slot, identity | .full slot _, identity => slot = some identity
  | .disk fs file, identity =>
    ∃ content, file.read fs = .ok content ∧ Wire.decode content = .ok identity

/-- No record is stored. -/
def IsVacant : Storage → Prop
  | .memory slot | .full slot _ => slot = none
  | .disk fs file => file.read fs = .error .notFound

theorem load_of_stores (h : storage.Stores identity) :
    storage.load = .ok (filled (some identity)) := by
  cases storage with
  | memory slot => rw [load, show slot = some identity from h]
  | full slot fault => rw [load, show slot = some identity from h]
  | disk fs file =>
    obtain ⟨content, hread, hdecode⟩ := h
    rw [load, RecordFile.load, hread]
    simp only [hdecode, filled, Option.filter_some]
    cases identity.isEmpty <;> rfl

theorem load_of_isVacant (h : storage.IsVacant) : storage.load = .ok none := by
  cases storage with
  | memory slot => rw [load, show slot = none from h]; rfl
  | full slot fault => rw [load, show slot = none from h]; rfl
  | disk fs file => rw [load, RecordFile.load, show file.read fs = .error .notFound from h]

/-- **No storage is in another state**: there is no record, or one that reads as an identity, or
    loading fails. -/
theorem isVacant_or_stores (storage : Storage) :
    storage.IsVacant ∨ (∃ identity, storage.Stores identity) ∨ ∃ e, storage.load = .error e := by
  have hslot : ∀ slot : Option Identity, slot = none ∨ ∃ identity, slot = some identity := by
    rintro (_ | identity)
    · exact .inl rfl
    · exact .inr ⟨identity, rfl⟩
  cases storage with
  | memory slot => exact (hslot slot).imp_right .inl
  | full slot fault => exact (hslot slot).imp_right .inl
  | disk fs file =>
    cases hread : file.read fs with
    | error fault =>
      by_cases hmissing : fault = .notFound
      · exact .inl (hread.trans (congrArg _ hmissing))
      · refine .inr (.inr ⟨.storage (.read file.pathText fault), ?_⟩)
        rw [load, RecordFile.load, hread]
        cases fault <;> first | rfl | exact absurd rfl hmissing
    | ok content =>
      cases hdecode : (Wire.decode content : Except Json.Fault Identity) with
      | error fault =>
        refine .inr (.inr ⟨.json fault, ?_⟩)
        rw [load, RecordFile.load, hread]
        simp only [hdecode]
      | ok identity => exact .inr (.inl ⟨identity, content, hread, hdecode⟩)

/-! ## A call -/

/-- The stored identity, whose parts must belong together; where none is stored, the fresh one,
    which is stored first, as far as the course of the save lets it. -/
def loadOrGenerateBy (course : SaveCourse) (storage : Storage) (fresh : Identity) :
    Storage × Except Error Identity :=
  match storage.load with
  | .error e => (storage, .error e)
  | .ok (some identity) => (storage, identity.check.map fun _ => identity)
  | .ok none =>
    match storage.saveBy course fresh with
    | (after, .ok ()) => (after, .ok fresh)
    | (after, .error e) => (after, .error e)

theorem loadOrGenerateBy_smooth (storage : Storage) (fresh : Identity) :
    storage.loadOrGenerateBy .smooth fresh = storage.loadOrGenerate fresh := by
  unfold loadOrGenerateBy loadOrGenerate
  rcases storage.load with e | _ | identity
  · rfl
  · rcases hsave : storage.save fresh with ⟨after, e | _⟩ <;> simp only [saveBy_smooth, hsave]
  · rfl

theorem loadOrGenerateBy_of_error {e : Error} (h : storage.load = .error e) :
    storage.loadOrGenerateBy course fresh = (storage, .error e) := by
  rw [loadOrGenerateBy, h]

theorem loadOrGenerateBy_of_some (h : storage.load = .ok (some identity)) :
    storage.loadOrGenerateBy course fresh = (storage, identity.check.map fun _ => identity) := by
  rw [loadOrGenerateBy, h]

theorem loadOrGenerateBy_of_none (h : storage.load = .ok none) :
    storage.loadOrGenerateBy course fresh =
      ((storage.saveBy course fresh).1, (storage.saveBy course fresh).2.map fun _ => fresh) := by
  rw [loadOrGenerateBy, h]
  rcases storage.saveBy course fresh with ⟨after, e | _⟩ <;> rfl

theorem filled_of_check (h : identity.check = .ok ()) : filled (some identity) = some identity := by
  rw [filled, Option.filter_some, Identity.isEmpty_of_check h]
  rfl

/-- **What is given is what is stored from then on**, and its parts belong together. -/
theorem load_of_loadOrGenerateBy (hfresh : fresh.check = .ok ())
    (h : (storage.loadOrGenerateBy course fresh).2 = .ok identity) :
    (storage.loadOrGenerateBy course fresh).1.load = .ok (some identity) ∧
      identity.check = .ok () := by
  cases hload : storage.load with
  | error e =>
    rw [loadOrGenerateBy_of_error hload] at h
    cases h
  | ok loaded =>
    cases loaded with
    | some stored =>
      rw [loadOrGenerateBy_of_some hload] at h ⊢
      cases hcheck : stored.check with
      | error e =>
        rw [hcheck] at h
        cases h
      | ok _ =>
        rw [hcheck] at h
        cases h
        exact ⟨hload, hcheck⟩
    | none =>
      rw [loadOrGenerateBy_of_none hload] at h ⊢
      rcases storage.saveBy_cases course fresh with ⟨⟨e, hfailed⟩, -⟩ | ⟨hok, hafter⟩
      · rw [hfailed] at h
        cases h
      · rw [hok] at h
        cases h
        exact ⟨hafter.trans (congrArg _ (filled_of_check hfresh)), hfresh⟩

/-! ## What a call answers -/

/-- A call that finds an identity leaves the storage as it is. It gives the identity if that is
    coherent, and else tells the part that is corrupt. -/
structure GivesStored (storage : Storage) (identity : Identity)
    (o : Storage × Except Error Identity) : Prop where
  storage_eq : o.1 = storage
  coherent : identity.Coherent → o.2 = .ok identity
  corrupt : ∀ fault, identity.Corrupt fault → o.2 = .error (.crypto (.corruptedIdentity fault))

/-- A call that finds nothing gives the fresh identity and has stored it, or the save has failed and
    the record is as it was. -/
inductive GivesFresh (course : SaveCourse) (storage : Storage) (fresh : Identity)
    (o : Storage × Except Error Identity) : Prop
  | saved (hsave : (storage.saveBy course fresh).2 = .ok ()) (hgiven : o.2 = .ok fresh)
    (hcheck : fresh.check = .ok ()) (hload : o.1.load = .ok (some fresh))
  | unsaved {e : Error} (hsave : (storage.saveBy course fresh).2 = .error e)
    (hgiven : o.2 = .error e) (hrecord : o.1.record = storage.record)
    (hload : o.1.load = storage.load)

/-- What a call makes of every storage. -/
structure Keeps (course : SaveCourse) (storage : Storage) (fresh : Identity)
    (o : Storage × Except Error Identity) : Prop where
  stored : ∀ identity, storage.Stores identity → identity ≠ .empty → GivesStored storage identity o
  unloaded : ∀ e, storage.load = .error e → o = (storage, .error e)
  vacant : storage.IsVacant ∨ storage.Stores .empty → GivesFresh course storage fresh o
  /-- What was given once is given again, whatever fresh identity the next call would take. -/
  again : ∀ identity, o.2 = .ok identity → ∀ course' other,
    o.1.loadOrGenerateBy course' other = (o.1, .ok identity)

theorem givesStored (hstores : storage.Stores identity) (hfull : identity ≠ .empty) :
    GivesStored storage identity (storage.loadOrGenerateBy course fresh) := by
  have hload : storage.load = .ok (some identity) := by
    rw [load_of_stores hstores, filled_some, if_neg hfull]
  rw [loadOrGenerateBy_of_some hload]
  refine ⟨rfl, fun hcoherent => ?_, fun fault hcorrupt => ?_⟩
  · rw [Identity.check_of_coherent hcoherent]
    rfl
  · rw [Identity.check_of_corrupt hcorrupt]
    rfl

theorem givesFresh (hfresh : fresh.check = .ok ())
    (hnone : storage.IsVacant ∨ storage.Stores .empty) :
    GivesFresh course storage fresh (storage.loadOrGenerateBy course fresh) := by
  have hload : storage.load = .ok none := by
    rcases hnone with hvacant | hempty
    · exact load_of_isVacant hvacant
    · rw [load_of_stores hempty, filled_some, if_pos rfl]
  rw [loadOrGenerateBy_of_none hload]
  rcases storage.saveBy_cases course fresh with ⟨⟨e, hfailed⟩, hrecord, hkept⟩ | ⟨hok, hafter⟩
  · exact .unsaved hfailed (congrArg (Except.map _) hfailed) hrecord hkept
  · exact .saved hok (congrArg (Except.map _) hok) hfresh
      (hafter.trans (congrArg _ (filled_of_check hfresh)))

/-- **A stored identity is kept**: `loadOrGenerate` loads it, and generates one only where none is
    stored. -/
theorem loadOrGenerate_keeps (course : SaveCourse) (storage : Storage) {secret : Bytes}
    (hsecret : secret.length = 32) :
    let fresh := Identity.ofSecret secret
    Keeps course storage fresh (storage.loadOrGenerateBy course fresh) ∧
    (storage.IsVacant ∨ (∃ identity, storage.Stores identity) ∨ ∃ e, storage.load = .error e) ∧
    (∀ identity : Identity, identity.Coherent ∨ ∃ fault, identity.Corrupt fault) ∧
    storage.loadOrGenerateBy .smooth fresh = storage.loadOrGenerate fresh := by
  intro fresh
  have hfresh : fresh.check = .ok () := Identity.check_ofSecret hsecret
  refine ⟨⟨fun _ => givesStored, fun _ => loadOrGenerateBy_of_error, givesFresh hfresh, ?_⟩,
    storage.isVacant_or_stores, Identity.coherent_or_corrupt, storage.loadOrGenerateBy_smooth fresh⟩
  intro identity hgiven course' other
  obtain ⟨hload, hcheck⟩ := load_of_loadOrGenerateBy hfresh hgiven
  rw [loadOrGenerateBy_of_some hload, hcheck]
  rfl

/-- In an empty memory the fresh identity is stored, and given again. -/
theorem loadOrGenerate_keeps_fresh :
    let fresh := Identity.ofSecret (List.replicate 32 1)
    let o := (memory none).loadOrGenerateBy .smooth fresh
    (List.replicate 32 (1 : UInt8)).length = 32 ∧ o.2 = .ok fresh ∧
      ∀ course other, o.1.loadOrGenerateBy course other = (o.1, .ok fresh) := by
  intro fresh o
  have hsecret : (List.replicate 32 (1 : UInt8)).length = 32 := List.length_replicate
  obtain ⟨hkeeps, -⟩ := loadOrGenerate_keeps .smooth (memory none) hsecret
  cases hkeeps.vacant (.inl rfl) with
  | saved hsave hgiven hcheck hload => exact ⟨hsecret, hgiven, hkeeps.again fresh hgiven⟩
  | unsaved hsave => cases hsave

end Storage
end LightningLottery
