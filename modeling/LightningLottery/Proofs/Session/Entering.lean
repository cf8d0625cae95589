/-
  The form of the identities of a session.

  * `Storage.loadOrGenerate_eq_ok_iff`, `Session.replaceIdentity_eq_ok_iff`: the ways in, all of them
    by the check or from a fresh secret.
  * `SessionCourse.identity_next`: only a switch changes the identity of a session.
  * `Session.entering_canonical_iff`: an identity that comes from a storage, or that a session
    switches to, is canonical if and only if its keys have no capital letters.
  * `Session.capitals_enter`: one with capital letters comes in as well.
-/
import LightningLottery.Proofs.Identity.Canonical
import LightningLottery.Proofs.Session.Naming

namespace LightningLottery

/-! ## Ways in -/

theorem Storage.loadOrGenerate_eq_ok_iff {storage : Storage} {fresh identity : Identity} :
    (storage.loadOrGenerate fresh).2 = .ok identity ↔
      storage.load = .ok (some identity) ∧ identity.check = .ok () ∨
        storage.load = .ok none ∧ identity = fresh ∧ (storage.save fresh).2 = .ok () := by
  unfold loadOrGenerate
  rcases storage.load with e | _ | stored
  · simp
  · rcases storage.save fresh with ⟨after, e | _⟩
    · simp
    · simp [eq_comm]
  · simp only [Except.ok.injEq, Option.some.injEq, reduceCtorEq, false_and, or_false]
    constructor
    · intro h
      cases hcheck : stored.check with
      | error e =>
        rw [hcheck] at h
        cases h
      | ok _ =>
        rw [hcheck] at h
        cases h
        exact ⟨rfl, hcheck⟩
    · rintro ⟨rfl, hcheck⟩
      rw [hcheck]
      rfl

theorem Storage.check_of_loadOrGenerate {storage : Storage} {secret : Bytes} {identity : Identity}
    (hsecret : secret.length = 32)
    (h : (storage.loadOrGenerate (.ofSecret secret)).2 = .ok identity) :
    identity.check = .ok () := by
  rcases loadOrGenerate_eq_ok_iff.1 h with ⟨-, hcheck⟩ | ⟨-, rfl, -⟩
  · exact hcheck
  · exact Identity.check_ofSecret hsecret

theorem Session.replaceIdentity_eq_ok_iff {Tag : Type} {s : Session Tag} {identity : Identity}
    {storage : Storage} :
    (s.replaceIdentity identity storage).2 = .ok () ↔
      identity.check = .ok () ∧ (storage.save identity).2 = .ok () := by
  unfold replaceIdentity
  cases identity.check with
  | error e => simp
  | ok _ => rcases storage.save identity with ⟨after, e | _⟩ <;> simp

theorem Session.replaceIdentity_ok {Tag : Type} {s : Session Tag} {identity : Identity}
    {storage : Storage} (h : (s.replaceIdentity identity storage).2 = .ok ()) :
    (s.replaceIdentity identity storage).1.1 =
      { s with api := s.api.setPublicKey identity.publicKey, identity := identity } := by
  obtain ⟨hcheck, hsaved⟩ := replaceIdentity_eq_ok_iff.1 h
  simp only [replaceIdentity_fst, hsaved, switch, hcheck]

/-! ## Sessions in use -/

namespace SessionCourse

variable {Tag : Type} [DecidableEq Tag] {c : SessionCourse Tag}

/-- Only a switch changes the identity, to one that passes the check. -/
theorem identity_next (c : SessionCourse Tag) (move : SessionMove Tag) :
    (c.next move).session.identity = c.session.identity ∨
      ∃ identity saved, move = .switched identity saved ∧ identity.check = .ok () ∧
        (c.next move).session.identity = identity := by
  rcases c.next_owner move with ⟨hsame, -⟩ | ⟨identity, saved, hmove, hcheck, hidentity, -⟩
  · exact Or.inl hsame
  · exact Or.inr ⟨identity, saved, hmove, hcheck, hidentity⟩

theorem run_identity_holds {P : Identity → Prop} (h : P c.session.identity)
    {moves : List (SessionMove Tag)}
    (hswitch : ∀ identity saved, .switched identity saved ∈ moves → identity.check = .ok () →
      P identity) : P (c.run moves).session.identity := by
  induction moves generalizing c with
  | nil => exact h
  | cons move moves ih =>
    refine ih ?_ fun identity saved hm => hswitch identity saved (List.mem_cons_of_mem _ hm)
    rcases c.identity_next move with hsame | ⟨identity, saved, rfl, hcheck, hidentity⟩
    · rwa [hsame]
    · rw [hidentity]
      exact hswitch identity saved List.mem_cons_self hcheck

theorem identity_switched (c : SessionCourse Tag) {identity : Identity}
    (h : identity.check = .ok ()) :
    (c.run [.switched identity (.ok ())]).session.identity = identity := by
  simp only [run, List.foldl_cons, List.foldl_nil, next, Session.switch, h]

end SessionCourse

namespace Session

/-- **An identity that enters a session is `Canonical` if and only if both its keys are in small
    letters**, by loading and by a switch; a generated one is canonical. A session that starts with
    a canonical identity and switches to such ones only has a canonical identity at any time. -/
theorem entering_canonical_iff {Tag : Type} [DecidableEq Tag] {secret : Bytes}
    (hsecret : secret.length = 32) :
    (∀ (storage : Storage) (identity : Identity),
      ((storage.loadOrGenerate (.ofSecret secret)).2 = .ok identity ↔
        storage.load = .ok (some identity) ∧
            Identity.ofPrivateKey identity.privateKey = .ok identity.small ∨
          storage.load = .ok none ∧ identity = .ofSecret secret ∧
            (storage.save identity).2 = .ok ()) ∧
      ((storage.loadOrGenerate (.ofSecret secret)).2 = .ok identity →
        (identity.Canonical ↔ identity.small = identity) ∧
          (storage.load = .ok none → identity.Canonical))) ∧
    (∀ (s : Session Tag) (identity : Identity) (storage : Storage),
      ((s.replaceIdentity identity storage).2 = .ok () ↔
        Identity.ofPrivateKey identity.privateKey = .ok identity.small ∧
          (storage.save identity).2 = .ok ()) ∧
      ((s.replaceIdentity identity storage).2 = .ok () →
        let after := (s.replaceIdentity identity storage).1.1
        after.identity = identity ∧ after.api.publicKey = identity.publicKey ∧
          (identity.Canonical ↔ identity.small = identity))) ∧
    ∀ (storage : Storage) (owner : Identity) (config : Config) (api : ApiClient)
      (moves : List (SessionMove Tag)),
      (storage.loadOrGenerate (.ofSecret secret)).2 = .ok owner →
        let s := ((SessionCourse.start config owner api).run moves).session
        s.api.publicKey = s.identity.publicKey ∧
          Identity.ofPrivateKey s.identity.privateKey = .ok s.identity.small ∧
          (s.identity.Canonical ↔ s.identity.small = s.identity) ∧
          (owner.small = owner →
            (∀ identity saved, .switched identity saved ∈ moves → identity.small = identity) →
              s.identity.Canonical) := by
  refine ⟨fun storage identity => ⟨?_, fun h => ⟨?_, fun hnone => ?_⟩⟩,
    fun s identity storage => ⟨?_, fun h => ?_⟩, fun storage owner config api moves h => ?_⟩
  · rw [Storage.loadOrGenerate_eq_ok_iff, Identity.check_eq_ok_iff]
    refine or_congr Iff.rfl (and_congr_right fun _ => and_congr_right ?_)
    rintro rfl
    rfl
  · exact (Identity.canonical_of_check (Storage.check_of_loadOrGenerate hsecret h)).2
  · rcases Storage.loadOrGenerate_eq_ok_iff.1 h with ⟨hsome, -⟩ | ⟨-, rfl, -⟩
    · rw [hnone] at hsome
      cases hsome
    · exact Identity.canonical_ofSecret hsecret
  · rw [replaceIdentity_eq_ok_iff, Identity.check_eq_ok_iff]
  · rw [replaceIdentity_ok h]
    exact ⟨rfl, rfl, (Identity.canonical_of_check (replaceIdentity_eq_ok_iff.1 h).1).2⟩
  · intro s
    have hcheck : s.identity.check = .ok () :=
      SessionCourse.run_identity_holds (P := fun identity => identity.check = .ok ())
        (Storage.check_of_loadOrGenerate hsecret h) fun _ _ _ hcheck => hcheck
    obtain ⟨hderived, hiff⟩ := Identity.canonical_of_check hcheck
    refine ⟨SessionCourse.run_speaks (SessionCourse.start_speaks config owner api) moves, hderived,
      hiff, fun howner hmoves => hiff.2 ?_⟩
    exact SessionCourse.run_identity_holds (P := fun identity => identity.small = identity) howner
      fun identity saved hm _ => hmoves identity saved hm

open WithdrawalCourse in
/-- A generated identity is canonical, and so is one that the session switches to. -/
theorem entering_canonical_fresh :
    let s := ((SessionCourse.start mainnetConfig (.ofSecret oneSecret) usualClient).run
      [(.switched (.ofSecret otherSecret) (.ok ()) : SessionMove Unit)]).session
    (Storage.loadOrGenerate (.memory none) (.ofSecret oneSecret)).2 = .ok (.ofSecret oneSecret) ∧
      (Identity.ofSecret oneSecret).Canonical ∧ s.identity = .ofSecret otherSecret ∧
      s.identity.Canonical := by
  intro s
  obtain ⟨hload, -, hrun⟩ :=
    @entering_canonical_iff Unit inferInstance oneSecret List.length_replicate
  obtain ⟨-, hentered⟩ := hload (.memory none) (.ofSecret oneSecret)
  obtain ⟨-, hcanonical⟩ := hentered rfl
  have hother : (Identity.ofSecret otherSecret).Canonical :=
    Identity.canonical_ofSecret List.length_replicate
  have hswitched : s.identity = .ofSecret otherSecret :=
    SessionCourse.identity_switched _ (Identity.canonical_iff.1 hother).1
  refine ⟨rfl, hcanonical rfl, hswitched, ?_⟩
  obtain ⟨-, -, -, hkept⟩ := hrun (.memory none) (.ofSecret oneSecret) mainnetConfig usualClient
    [.switched (.ofSecret otherSecret) (.ok ())] rfl
  refine hkept (Identity.canonical_iff.1 (hcanonical rfl)).2 fun identity saved hm => ?_
  cases List.mem_singleton.1 hm
  exact (Identity.canonical_iff.1 hother).2

end Session

/-! ## Capital letters -/

namespace Identity

/-- The identity of a secret, with the public key in capital letters. -/
def inCapitals (secret : Bytes) : Identity :=
  { ofSecret secret with publicKey := asciiUpper (ofSecret secret).publicKey }

theorem small_inCapitals (secret : Bytes) : (inCapitals secret).small = ofSecret secret := by
  have hprivate : asciiLower (ofSecret secret).privateKey = (ofSecret secret).privateKey :=
    asciiLower_hexEncode _
  have hpublic : asciiLower (ofSecret secret).publicKey = (ofSecret secret).publicKey :=
    asciiLower_hexEncode _
  rw [inCapitals, small, asciiLower_asciiUpper, hprivate, hpublic]

theorem check_inCapitals {secret : Bytes} (h : secret.length = 32) :
    (inCapitals secret).check = .ok () := by
  rw [check_eq_ok_iff, small_inCapitals]
  exact (canonical_ofSecret h).whole

theorem not_canonical_inCapitals {secret : Bytes}
    (hletters : asciiUpper (hexEncode (Ed25519.publicKey secret)) ≠
      hexEncode (Ed25519.publicKey secret)) : ¬ (inCapitals secret).Canonical := by
  intro h
  have hsmall := (canonical_iff.1 h).2
  rw [small_inCapitals] at hsmall
  exact hletters (congrArg publicKey hsmall).symm

end Identity

open WithdrawalCourse in
/-- An identity in capital letters is loaded, and switched to, unchanged. -/
theorem Session.capitals_enter :
    (¬ ∀ (storage : Storage) (secret : Bytes) (identity : Identity), secret.length = 32 →
      (storage.loadOrGenerate (.ofSecret secret)).2 = .ok identity → identity.Canonical) ∧
    ¬ ∀ (s : Session Unit) (identity : Identity) (storage : Storage),
      (s.replaceIdentity identity storage).2 = .ok () →
        (s.replaceIdentity identity storage).1.1.identity.Canonical := by
  have hlength : oneSecret.length = 32 := List.length_replicate
  have hcheck : (Identity.inCapitals oneSecret).check = .ok () := Identity.check_inCapitals hlength
  have hcapital : ¬ (Identity.inCapitals oneSecret).Canonical :=
    Identity.not_canonical_inCapitals (by decide +kernel)
  refine ⟨fun h => ?_, fun h => ?_⟩
  · have hload : (Storage.memory (some (.inCapitals oneSecret))).load =
        .ok (some (.inCapitals oneSecret)) := by
      rw [Storage.load, Storage.filled, Option.filter_some, Identity.isEmpty_of_check hcheck]
      rfl
    exact hcapital (h _ oneSecret _ hlength
      (Storage.loadOrGenerate_eq_ok_iff.2 (Or.inl ⟨hload, hcheck⟩)))
  · have hok : ((assemble mainnetConfig .empty usualClient : Session Unit).replaceIdentity
        (.inCapitals oneSecret) (.memory none)).2 = .ok () :=
      replaceIdentity_eq_ok_iff.2 ⟨hcheck, rfl⟩
    have hentered := h _ _ _ hok
    rw [replaceIdentity_ok hok] at hentered
    exact hcapital hentered

end LightningLottery
