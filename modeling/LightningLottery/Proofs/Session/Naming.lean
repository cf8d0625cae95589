/-
  In whose name a withdrawal speaks.

  A withdrawal asks for the prizes in the name of the identity that the session has when it begins.
  The identity that asks for the payout is read later, when the reply about the prizes is taken in,
  and the session may have switched to another one meanwhile.

  * `bearerOf_inj`: the name in a request tells whose it is.
  * `WithdrawalCourse.run_identity`: the identity of the session is that of the last switch.
  * `WithdrawalCourse.exists_asked`: a payout is asked for at a move of its own.
  * `WithdrawalCourse.payout_names_identity_at_reply`: in the name of the identity of that moment.
-/
import LightningLottery.Proofs.Bech32.Reading
import LightningLottery.Proofs.Identity.Check
import LightningLottery.Proofs.Session.Course
import LightningLottery.Proofs.Session.Payout

namespace LightningLottery

/-! ## Names -/

/-- The name in a request for the owner of a public key. -/
def bearerOf (publicKey : String) : Option String :=
  if publicKey.isEmpty then none else some ("Bearer " ++ publicKey)

theorem ApiClient.authorization_eq (client : ApiClient) :
    client.authorization = bearerOf client.publicKey := rfl

/-- **Different public keys have different bearers.** -/
theorem bearerOf_inj {a b : String} : bearerOf a = bearerOf b ↔ a = b := by
  refine ⟨fun h => ?_, congrArg bearerOf⟩
  unfold bearerOf at h
  split at h
  · next ha =>
    split at h
    · next hb => rw [String.isEmpty_iff.1 ha, String.isEmpty_iff.1 hb]
    · cases h
  · split at h
    · cases h
    · rw [← String.toList_inj]
      have htexts := congrArg String.toList (Option.some.inj h)
      rw [String.toList_append, String.toList_append] at htexts
      exact List.append_cancel_left htexts

theorem ApiClient.setPublicKey_setPublicKey (client : ApiClient) (a b : String) :
    (client.setPublicKey a).setPublicKey b = client.setPublicKey b := rfl

variable {Tag : Type}

/-- The identity that a move switches to, if it does. -/
def WithdrawalMove.identity? : WithdrawalMove Tag → Option Identity
  | .switched identity storage =>
    match identity.check, (storage.save identity).2 with
    | .ok _, .ok _ => some identity
    | _, _ => none
  | _ => none

namespace WithdrawalCourse

variable (order : WithdrawalOrder)

/-- A withdrawal that begins. -/
def started (s : Session Tag) : WithdrawalCourse Tag := ⟨s, s.beginWithdrawal, none⟩

/-! ## Switches -/

/-- **Only a switch changes the identity** of a session. -/
theorem next_identity (c : WithdrawalCourse Tag) (move : WithdrawalMove Tag) :
    (c.next order move).session.identity = move.identity?.getD c.session.identity := by
  cases move with
  | resumed now =>
    rw [next_resumed]
    rcases c.session.resumeWithdrawal_session now order c.ready c.step with hs | ⟨id, hs⟩ <;>
      simp only [hs, Session.track, WithdrawalMove.identity?, Option.getD_none]
  | unsubscribed id =>
    simp only [next, Session.unsubscribe]
    split <;> rfl
  | switched identity storage =>
    simp only [next, Session.replaceIdentity_fst, Session.switch, WithdrawalMove.identity?]
    split <;> simp_all
  | answered | arrived | tracked | subscribed => rfl

theorem next_speaks {c : WithdrawalCourse Tag} (h : c.session.Speaks)
    (move : WithdrawalMove Tag) : (c.next order move).session.Speaks := by
  cases move with
  | resumed now =>
    rw [next_resumed]
    rcases c.session.resumeWithdrawal_session now order c.ready c.step with hs | ⟨id, hs⟩ <;>
      simp only [hs] <;> exact h
  | unsubscribed id =>
    simp only [next, Session.unsubscribe]
    split <;> exact h
  | switched identity storage =>
    simp only [next, Session.replaceIdentity_fst]
    exact h.switch identity _
  | answered | arrived | tracked | subscribed => exact h

/-- The identity after moves: that of the last switch, or the one before them. -/
def identityAfter (identity : Identity) (moves : List (WithdrawalMove Tag)) : Identity :=
  moves.foldl (fun identity move => move.identity?.getD identity) identity

theorem identityAfter_of_none {identity : Identity} {moves : List (WithdrawalMove Tag)}
    (h : ∀ move ∈ moves, move.identity? = none) : identityAfter identity moves = identity := by
  induction moves with
  | nil => rfl
  | cons move moves ih =>
    rw [identityAfter, List.foldl_cons, h move List.mem_cons_self]
    exact ih fun later hm => h later (List.mem_cons_of_mem _ hm)

/-- **The identity of a session is that of the last switch.** -/
theorem run_identity (c : WithdrawalCourse Tag) (moves : List (WithdrawalMove Tag)) :
    (c.run order moves).session.identity = identityAfter c.session.identity moves := by
  induction moves generalizing c with
  | nil => rfl
  | cons move moves ih =>
    rw [run_cons, ih, next_identity]
    rfl

theorem run_speaks {c : WithdrawalCourse Tag} (h : c.session.Speaks)
    (moves : List (WithdrawalMove Tag)) : (c.run order moves).session.Speaks := by
  induction moves generalizing c with
  | nil => exact h
  | cons move moves ih => exact ih (next_speaks order h move)

/-! ## When the payout is asked for -/

/-- A withdrawal that takes in the reply about the prizes asks for a payout of them. -/
def Asks (c : WithdrawalCourse Tag) (get : Flight PrizesReply) (now : UInt64) (invoice : Invoice)
    (payout : Flight WithdrawReply) : Prop :=
  ∃ reply, c.step = .askingPrizes get ∧ c.session.api.poll get c.ready = some (.ok reply) ∧
    c.session.requestPayout now order reply = .ok (invoice, payout)

theorem next_askingPrizes {c : WithdrawalCourse Tag} {get : Flight PrizesReply}
    (h : c.step = .askingPrizes get) (move : WithdrawalMove Tag) :
    (c.next order move).step = .askingPrizes get ∨ (c.next order move).Ended ∨
      ∃ now invoice payout, move = .resumed now ∧ c.Asks order get now invoice payout ∧
        (c.next order move).step = .askingPayout invoice payout := by
  cases move with
  | resumed now =>
    rw [next_resumed, h]
    simp only [Session.resumeWithdrawal]
    cases hpoll : c.session.api.poll get c.ready with
    | none => exact Or.inl rfl
    | some result =>
      cases result with
      | error e => exact Or.inr (Or.inl ⟨_, rfl⟩)
      | ok reply =>
        simp only [Except.bind]
        cases hasked : c.session.requestPayout now order reply with
        | error e => exact Or.inr (Or.inl ⟨_, rfl⟩)
        | ok asked =>
          obtain ⟨invoice, payout⟩ := asked
          exact Or.inr (Or.inr ⟨now, invoice, payout, rfl, ⟨reply, h, hpoll, hasked⟩, rfl⟩)
  | answered | arrived | tracked | subscribed | unsubscribed | switched => exact Or.inl h

/-- A payout that is asked for stays as it is, whatever the session switches to. -/
theorem next_askingPayout {c : WithdrawalCourse Tag} {invoice : Invoice}
    {payout : Flight WithdrawReply} (h : c.step = .askingPayout invoice payout)
    (move : WithdrawalMove Tag) :
    (c.next order move).step = .askingPayout invoice payout ∨ (c.next order move).Ended := by
  cases move with
  | resumed now =>
    rw [next_resumed, h]
    simp only [Session.resumeWithdrawal]
    split
    · exact Or.inl rfl
    · exact Or.inr ⟨_, rfl⟩
  | answered | arrived | tracked | subscribed | unsubscribed | switched => exact Or.inl h

theorem run_askingPayout {c : WithdrawalCourse Tag} {invoice : Invoice}
    {payout : Flight WithdrawReply} (h : c.step = .askingPayout invoice payout)
    (moves : List (WithdrawalMove Tag)) :
    (c.run order moves).step = .askingPayout invoice payout ∨ (c.run order moves).Ended := by
  induction moves generalizing c with
  | nil => exact Or.inl h
  | cons move moves ih =>
    rcases next_askingPayout order h move with hnext | ⟨result, hended⟩
    · exact ih hnext
    · exact Or.inr ⟨result, run_ended order hended moves⟩

/-- **A payout is asked for by a `resumed` move** that takes in the reply to the prizes. -/
theorem exists_asked {c : WithdrawalCourse Tag} {get : Flight PrizesReply}
    (hc : c.step = .askingPrizes get) {invoice : Invoice} {payout : Flight WithdrawReply}
    {moves : List (WithdrawalMove Tag)}
    (h : (c.run order moves).step = .askingPayout invoice payout) :
    ∃ before now after, moves = before ++ .resumed now :: after ∧
      (c.run order before).Asks order get now invoice payout := by
  induction moves generalizing c with
  | nil => cases hc.symm.trans h
  | cons move moves ih =>
    rcases next_askingPrizes order hc move with hnext | ⟨result, hended⟩ | hasked
    · obtain ⟨before, now, after, rfl, hasks⟩ := ih hnext h
      exact ⟨move :: before, now, after, rfl, hasks⟩
    · cases (run_ended order hended moves).symm.trans h
    · -- what is asked for at this move is still asked for at the end
      obtain ⟨now, invoice', payout', rfl, hasks, hnext⟩ := hasked
      rcases run_askingPayout order hnext moves with hstep | ⟨result, hended⟩
      · cases hstep.symm.trans h
        exact ⟨[], now, moves, rfl, hasks⟩
      · cases hended.symm.trans h

/-- **The payout names the identity of the session at the moment when the reply to the prizes is
    taken in**: public key, signature and bearer are all its own. So both requests of a withdrawal
    name one key if and only if that identity has the public key of the one at the start. -/
theorem payout_names_identity_at_reply [DecidableEq Tag] (config : Config) (identity : Identity)
    (api : ApiClient) (earlier : List (SessionMove Tag)) (moves : List (WithdrawalMove Tag))
    (invoice : Invoice) (payout : Flight WithdrawReply)
    (h : ((started ((SessionCourse.start config identity api).run earlier).session).run order
      moves).step = .askingPayout invoice payout) :
    let s := ((SessionCourse.start config identity api).run earlier).session
    ∃ get before now after, moves = before ++ .resumed now :: after ∧
      s.api.launch .prizes = .ok get ∧
      get.request.authorization = bearerOf s.identity.publicKey ∧
      let c := (started s).run order before
      (∃ reply, c.session.api.poll get c.ready = some (.ok reply) ∧
        c.session.PayoutDue now order reply.prizes invoice) ∧
      c.session.CarriesPayout order payout.request ∧
      payout.request.authorization = bearerOf c.session.identity.publicKey ∧
      c.session.identity = identityAfter s.identity before ∧
      (payout.request.authorization = get.request.authorization ↔
        c.session.identity.publicKey = s.identity.publicKey) ∧
      ((∀ move ∈ before, move.identity? = none) → c.session.identity = s.identity) := by
  have hspeaks : ((SessionCourse.start config identity api).run earlier).session.Speaks :=
    SessionCourse.run_speaks (SessionCourse.start_speaks config identity api) earlier
  generalize ((SessionCourse.start config identity api).run earlier).session = s at h hspeaks
  intro s'
  cases hlaunch : s.api.launch .prizes with
  | error e =>
    -- a withdrawal that could not ask for the prizes has ended
    have hended : (started s).step = .ended (.error e) := by
      simp only [started, Session.beginWithdrawal, hlaunch]
    cases (run_ended order hended moves).symm.trans h
  | ok get =>
    have hbegun : (started s).step = .askingPrizes get := by
      simp only [started, Session.beginWithdrawal, hlaunch]
    obtain ⟨before, now, after, hmoves, reply, -, hpoll, hasked⟩ := exists_asked order hbegun h
    obtain ⟨hdue, -, hasks, -⟩ := Session.requestPayout_eq_ok_iff.1 hasked
    have hget : get.request.authorization = bearerOf s.identity.publicKey := by
      obtain ⟨-, url, -, rfl⟩ := ApiClient.launch_eq_ok_iff.1 hlaunch
      exact congrArg bearerOf hspeaks
    have hpayout : payout.request.authorization =
        bearerOf ((started s).run order before).session.identity.publicKey :=
      hasks.carriesPayout.2.1.trans (congrArg bearerOf (run_speaks order hspeaks before))
    have hidentity : ((started s).run order before).session.identity =
        identityAfter s.identity before := run_identity order (started s) before
    refine ⟨get, before, now, after, hmoves, rfl, hget, ⟨reply, hpoll, hdue⟩,
      hasks.carriesPayout, hpayout, hidentity, ?_, fun hnone => ?_⟩
    · rw [hpayout, hget, bearerOf_inj]
    · rw [hidentity, identityAfter_of_none hnone]

/-! ## A switch while the prizes are asked for -/

/-- The human-readable part of a payment request over 40 millionths of a bitcoin. -/
def noteHrp : List Char := ['l', 'n', 'b', 'c', '4', '0', 'u']

/-- The words of that request, made at the start of 1970: payment hash, description, payment secret
    and features. Its signature has the base point for its point and one for its scalar, which is
    good under the key that it recovers to. -/
def noteWords : List Word :=
  List.replicate 7 0 ++ 1 :: 1 :: 20 :: List.replicate 52 0 ++ [13, 0, 0] ++
    16 :: 1 :: 20 :: List.replicate 52 0 ++ [5, 0, 3, 16, 8, 0] ++
      wordsOfBytes ((toLittleEndian 32 Secp256k1.Point.base.x).reverse ++
        (toLittleEndian 32 1).reverse ++ [0])

/-- The request with its checksum. -/
def note : String := Bech32.written noteHrp (noteWords ++ Bech32.checksum noteHrp noteWords)

theorem parse_note : SignedInvoice.parse note =
    SignedInvoice.ofWords (String.ofList noteHrp) noteWords := by
  have hhrp : Bech32.IsHrp (String.ofList noteHrp) :=
    Bech32.isHrp_ofList_iff.2 ⟨by decide, by decide, by simp [noteHrp], Or.inl (by simp [noteHrp])⟩
  rw [SignedInvoice.parse, note, Bech32.decode_written hhrp (by decide)]

theorem decode_note : ∃ d, DecodedInvoice.decode (trim note) = .ok d ∧
    d.Acceptable "lnbc" none none 0 4000 := by
  have hfacts : ((SignedInvoice.ofWords (String.ofList noteHrp) noteWords).toOption.map fun i =>
      let d := DecodedInvoice.ofSigned i
      (i.check.toOption, d.networkPrefix, d.amountMsat, d.timestamp, d.expiry)) =
        some (some (), "lnbc", some 4000000, 0, 3600) := by
    decide +kernel
  have htrim : trim note = note := Bech32.trim_written (by decide)
  obtain ⟨i, hi, hfacts⟩ := Option.map_eq_some_iff.1 hfacts
  simp only [Prod.mk.injEq] at hfacts
  obtain ⟨hcheck, hnetwork, hamount, htimestamp, hexpiry⟩ := hfacts
  refine ⟨.ofSigned i, ?_, ?_, ⟨⟨4000000, hamount, rfl⟩, by decide, nofun⟩, nofun, ?_⟩
  · refine DecodedInvoice.decode_eq_ok ?_ (toOption_eq_some_iff.1 hcheck)
    rw [htrim, htrim, parse_note, toOption_eq_some_iff.1 hi]
  · rw [hnetwork]
    exact beq_self_eq_true _
  · rw [DecodedInvoice.deadline, htimestamp, hexpiry]
    decide

theorem validate_note : ∃ invoice, validateInvoice note "lnbc" none none 0 = .ok invoice ∧
    invoice.amountSat = 4000 := by
  obtain ⟨d, hd, ha⟩ := decode_note
  exact ⟨_, validateInvoice_eq_ok hd ha, rfl⟩

/-- The note is to be paid, without a fee. -/
def noteOrder : WithdrawalOrder := ⟨note, 0⟩

/-- The reply that tells of prizes of 5000 satoshis. -/
def prizesBody : Bytes := utf8 "\x7b\"prizes\":5000\x7d"

theorem decode_prizesBody : Wire.decode prizesBody = .ok (⟨5000⟩ : PrizesReply) := by
  have h : (Wire.decode prizesBody).toOption = some (⟨5000⟩ : PrizesReply) := by
    decide +kernel
  exact toOption_eq_some_iff.1 h

/-- A client at the usual server. -/
def usualClient : ApiClient := .ofUrl Settings.defaultApiUrl

theorem usualClient_folder : usualClient.base.path = .rooted ["api", ""] := by
  decide

theorem canSend_named (secret : Bytes) :
    (usualClient.setPublicKey (Identity.ofSecret secret).publicKey).CanSend := by
  have hstart : isHeaderValue "Bearer " = true := by decide
  have hsends := isHeaderValue_append_hexEncode hstart (Ed25519.publicKey secret)
  refine ⟨⟨_, usualClient_folder⟩, ?_⟩
  rw [ApiClient.authorization_eq, ApiClient.setPublicKey, Identity.publicKey_ofSecret, bearerOf]
  split
  · rfl
  · rw [Option.any_some, hsends]
    rfl

/-- A session on the main network, at the usual server, in the name of the identity of a secret. -/
structure Named (t : Session Unit) (secret : Bytes) : Prop where
  length : secret.length = 32
  config : t.config.bolt11Prefix = "lnbc"
  identity : t.identity = .ofSecret secret
  api : t.api = usualClient.setPublicKey (Identity.ofSecret secret).publicKey

variable {t : Session Unit} {secret : Bytes}

theorem Named.canSend (h : Named t secret) : t.api.CanSend := by
  rw [h.api]
  exact canSend_named secret

theorem Named.authorization (h : Named t secret) :
    t.api.authorization = bearerOf (Identity.ofSecret secret).publicKey := by
  rw [h.api]
  rfl

theorem Named.isAborted_eq_false {α : Type} (h : Named t secret) (flight : Flight α) :
    t.api.isAborted flight = false := by
  rw [h.api]
  rfl

theorem named_start (config : Config) (hconfig : config.bolt11Prefix = "lnbc") {secret : Bytes}
    (h : secret.length = 32) :
    Named (SessionCourse.start config (.ofSecret secret) usualClient).session secret :=
  ⟨h, hconfig, SessionCourse.start_identity _ _ _, SessionCourse.start_api _ _ _⟩

theorem Named.exists_told (h : Named t secret) :
    ∃ get, t.api.launch .prizes = .ok get ∧
      get.request.authorization = bearerOf (Identity.ofSecret secret).publicKey ∧
      (started t).next noteOrder (.answered (.answered 200 prizesBody)) =
        ⟨t, .askingPrizes get, some (.answered 200 prizesBody)⟩ := by
  obtain ⟨url, -, hlaunch⟩ := h.canSend.exists_launch .prizes
  refine ⟨_, hlaunch, ?_, ?_⟩
  · exact h.authorization
  · simp only [next, started, Session.beginWithdrawal, hlaunch, Option.getD_none]

theorem Named.switched (h : Named t secret) {other : Bytes} (hother : other.length = 32) :
    Named (t.replaceIdentity (.ofSecret other) (.memory none)).1.1 other := by
  have hsaved : ((Storage.memory none).save (Identity.ofSecret other)).2 = .ok () := rfl
  simp only [Session.replaceIdentity_fst, Session.switch, Identity.check_ofSecret hother, hsaved]
  refine ⟨hother, h.config, rfl, ?_⟩
  show t.api.setPublicKey _ = _
  rw [h.api, ApiClient.setPublicKey_setPublicKey]

theorem Named.next_note (h : Named t secret) (get : Flight PrizesReply) :
    ∃ invoice payout, (next noteOrder ⟨t, .askingPrizes get, some (.answered 200 prizesBody)⟩
        (.resumed 0)).step = .askingPayout invoice payout ∧
      payout.request.authorization = bearerOf (Identity.ofSecret secret).publicKey := by
  obtain ⟨invoice, hvalid, hamount⟩ := validate_note
  obtain ⟨hprivate, hpublic⟩ := Identity.keys_ofSecret h.length
  have hdue : t.PayoutDue 0 noteOrder 5000 invoice := by
    refine ⟨by decide, by decide, ?_, ?_, ?_⟩
    · rw [h.config]
      exact hvalid
    · rw [hamount]
      decide
    · rw [h.identity]
      exact ⟨⟨_, hprivate⟩, _, hpublic⟩
  obtain ⟨payout, hpayout, hasks, -⟩ : ∃ payout, t.requestPayout 0 noteOrder ⟨5000⟩ =
      .ok (invoice, payout) ∧ t.AsksPayout noteOrder payout.request ∧
        payout.signal = t.api.signal.current :=
    hdue.exists_requestPayout h.canSend
  have hreply : t.api.poll get (some (.answered 200 prizesBody)) = some (.ok ⟨5000⟩) := by
    rw [ApiClient.poll_some, ApiClient.land_of_not_aborted (h.isAborted_eq_false get)]
    refine congrArg some (Exchange.result_eq_ok_iff.2 ⟨200, prizesBody, rfl, ?_, ?_, ?_⟩)
    · decide
    · decide
    · exact decode_prizesBody
  refine ⟨invoice, payout, ?_, ?_⟩
  · rw [next_resumed]
    simp only [Session.resumeWithdrawal, hreply, Except.bind, hpayout]
  · rw [hasks.carriesPayout.2.1, h.authorization]

/-- The prizes are told, and the withdrawal goes on. -/
def told : List (WithdrawalMove Unit) := [.answered (.answered 200 prizesBody), .resumed 0]

/-- The prizes are told, the session switches, and the withdrawal goes on. -/
def toldAndSwitched (other : Bytes) : List (WithdrawalMove Unit) :=
  [.answered (.answered 200 prizesBody), .switched (.ofSecret other) (.memory none), .resumed 0]

theorem Named.run_told (h : Named t secret) : ∃ invoice payout,
    ((started t).run noteOrder told).step = .askingPayout invoice payout := by
  obtain ⟨get, -, -, htold⟩ := h.exists_told
  obtain ⟨invoice, payout, hnext, -⟩ := h.next_note get
  rw [told, run_cons, htold]
  exact ⟨invoice, payout, hnext⟩

theorem Named.run_toldAndSwitched (h : Named t secret) (other : Bytes)
    (hother : other.length = 32) :
    ∃ invoice payout, ((started t).run noteOrder (toldAndSwitched other)).step =
        .askingPayout invoice payout ∧
      payout.request.authorization = bearerOf (Identity.ofSecret other).publicKey := by
  obtain ⟨get, -, -, htold⟩ := h.exists_told
  rw [toldAndSwitched, run_cons, htold, run_cons]
  exact (h.switched hother).next_note get

/-- The settings of a session on the main network. -/
def mainnetConfig : Config :=
  ⟨Settings.defaultApiUrl, .mainnet, "lnbc", Settings.defaultStorageDir, Backoff.defaultFloor,
    Backoff.defaultCeiling⟩

/-- Two secrets. -/
def oneSecret : Bytes := List.replicate 32 1
def otherSecret : Bytes := List.replicate 32 2

/-- Without a switch both requests go in one name. -/
theorem payout_names_one_without_switch :
    let s := ((SessionCourse.start mainnetConfig (.ofSecret oneSecret) usualClient).run
      ([] : List (SessionMove Unit))).session
    ∃ get invoice payout,
      ((started s).run noteOrder told).step = .askingPayout invoice payout ∧
      s.api.launch .prizes = .ok get ∧
      payout.request.authorization = get.request.authorization := by
  intro s
  have hs : Named s oneSecret := named_start mainnetConfig rfl List.length_replicate
  obtain ⟨invoice, payout, hstep⟩ := hs.run_told
  obtain ⟨get, before, now, after, hmoves, hget, -, -, -, -, -, hiff, hkept⟩ :=
    payout_names_identity_at_reply noteOrder mainnetConfig (.ofSecret oneSecret) usualClient [] told
      invoice payout hstep
  refine ⟨get, invoice, payout, hstep, hget, hiff.2 (congrArg Identity.publicKey (hkept ?_))⟩
  intro move hm
  have hmem : move ∈ told := hmoves ▸ List.mem_append_left _ hm
  simp only [told, List.mem_cons, List.not_mem_nil, or_false] at hmem
  rcases hmem with rfl | rfl <;> rfl

theorem publicKey_ne : (Identity.ofSecret otherSecret).publicKey ≠
    (Identity.ofSecret oneSecret).publicKey := by
  intro h
  have hkeys : Ed25519.publicKey otherSecret = Ed25519.publicKey oneSecret := hexEncode_injective h
  revert hkeys
  decide +kernel

/-- With a switch before the reply to the prizes is taken in, the two requests name two keys. -/
theorem payout_names_other_after_switch :
    ¬ ∀ (config : Config) (identity : Identity) (api : ApiClient)
      (earlier : List (SessionMove Unit)) (order : WithdrawalOrder)
      (moves : List (WithdrawalMove Unit)) (get : Flight PrizesReply) (invoice : Invoice)
      (payout : Flight WithdrawReply),
      let s := ((SessionCourse.start config identity api).run earlier).session
      s.api.launch .prizes = .ok get →
      ((started s).run order moves).step = .askingPayout invoice payout →
      payout.request.authorization = get.request.authorization := by
  intro h
  have hs : Named ((SessionCourse.start mainnetConfig (.ofSecret oneSecret) usualClient).run
      ([] : List (SessionMove Unit))).session oneSecret :=
    named_start mainnetConfig rfl List.length_replicate
  obtain ⟨get, hget, hone, -⟩ := hs.exists_told
  obtain ⟨invoice, payout, hstep, hother⟩ :=
    hs.run_toldAndSwitched otherSecret List.length_replicate
  have hsame := h mainnetConfig (.ofSecret oneSecret) usualClient [] noteOrder
    (toldAndSwitched otherSecret) get invoice payout hget hstep
  rw [hone, hother, bearerOf_inj] at hsame
  exact publicKey_ne hsame

end WithdrawalCourse
end LightningLottery
