/-
  Those who wait for payments, each at the end of a channel.

  * `SenderTable`: the senders of each payment under way, in no particular order of the payments.
  * `SenderTable.waiters`: what becomes of a waiter, by what was sent and whether its sender is left.
  * `SenderTable.Agrees`: the waiters and the payments under way are those of a tracker.
  * `Agrees.next`: they stay so with every move, and the table tells the same.
  * `SenderTable.Runs.agrees`: in any order of the payments, a table does what a tracker does.
  * `PaymentTracker.matches_history`: so all that can be asked of either is as its history says.
-/
import LightningLottery.Proofs.Payment.History

namespace LightningLottery

/-- The way from a sender, which the table keeps, to one who waits. -/
structure WaitChannel where
  id : PaymentId
  /-- A channel takes one outcome. -/
  sent : Option PaymentOutcome
  /-- Whether the waiter is still there. -/
  heard : Bool

/-- The senders of each payment under way, by the numbers of their channels, and the channels so
    far. -/
structure SenderTable where
  entries : List (PaymentId × List Nat)
  channels : List WaitChannel

namespace WaitChannel

/-- Sends an outcome, which gets nowhere if the waiter is gone. -/
def send (outcome : PaymentOutcome) (c : WaitChannel) : WaitChannel :=
  if c.heard then { c with sent := some outcome } else c

/-- What becomes of the waiter: without a sender, nothing more will come. -/
def waiter (c : WaitChannel) (held : Bool) : Waiter :=
  if c.heard then
    match c.sent with
    | some outcome => .settled outcome
    | none => if held then .pending c.id else .aborted
  else .dropped

theorem send_send (outcome : PaymentOutcome) (c : WaitChannel) :
    (c.send outcome).send outcome = c.send outcome := by
  by_cases h : c.heard <;> simp [send, h]

theorem waiter_send {c : WaitChannel} {outcome : PaymentOutcome} (hid : c.id = outcome.paymentId)
    (hsent : c.sent = none) (held : Bool) :
    (c.send outcome).waiter held = (c.waiter true).settle outcome := by
  by_cases h : c.heard <;> simp [send, waiter, Waiter.settle, h, hid, hsent]

theorem settle_waiter {c : WaitChannel} {outcome : PaymentOutcome} {held : Bool}
    (h : held = true → c.id ≠ outcome.paymentId) :
    (c.waiter held).settle outcome = c.waiter held := by
  unfold waiter
  split
  · split
    · rfl
    · split
      · next hheld => exact if_neg (h hheld)
      · rfl
  · rfl

theorem abort_waiter (c : WaitChannel) (held : Bool) : (c.waiter held).abort = c.waiter false := by
  unfold waiter
  split
  · split
    · rfl
    · split <;> rfl
  · rfl

end WaitChannel

namespace PaymentTracker

/-- What a tracker answers to a move. -/
def reply (t : PaymentTracker) : TrackerMove → Option Bool
  | .observed outcome => some (t.observe outcome).2
  | _ => none

/-- Its answers to one move after the other. -/
def replies (t : PaymentTracker) : List TrackerMove → List (Option Bool)
  | [] => []
  | move :: moves => t.reply move :: (t.next move).replies moves

end PaymentTracker

namespace SenderTable

def empty : SenderTable := ⟨[], []⟩

/-- The senders of a payment, if it is under way. -/
def senders? (t : SenderTable) (id : PaymentId) : Option (List Nat) :=
  (t.entries.find? (·.1 == id)).map (·.2)

/-- A sender behind the others of its payment, or the first one. -/
def push (t : SenderTable) (id : PaymentId) (n : Nat) : List (PaymentId × List Nat) :=
  if (t.senders? id).isSome then
    t.entries.map fun e => (e.1, if e.1 = id then e.2 ++ [n] else e.2)
  else t.entries ++ [(id, [n])]

/-- Makes a channel, and keeps its sender. -/
def track (t : SenderTable) (id : PaymentId) : SenderTable where
  entries := t.push id t.channels.length
  channels := t.channels ++ [⟨id, none, true⟩]

/-- Takes the senders of a payment out of the table, and uses them. -/
def observe (t : SenderTable) (outcome : PaymentOutcome) : SenderTable × Bool :=
  match t.senders? outcome.paymentId with
  | none => (t, false)
  | some senders =>
    ({ entries := t.entries.filter (·.1 != outcome.paymentId)
       channels := senders.foldl (fun cs n => cs.modify n (·.send outcome)) t.channels }, true)

/-- Drops all senders. -/
def clear (t : SenderTable) : SenderTable := { t with entries := [] }

/-- Drops the waiter at the end of a channel; its sender stays. -/
def dropWaiter (t : SenderTable) (n : Nat) : SenderTable :=
  { t with channels := t.channels.modify n fun c => { c with heard := false } }

def isTracking (t : SenderTable) (id : PaymentId) : Bool := (t.senders? id).isSome

def size (t : SenderTable) : Nat := t.entries.length

/-- Whether the sender of a channel is in the table. -/
def holds (t : SenderTable) (n : Nat) : Bool := t.entries.any (·.2.contains n)

def waiters (t : SenderTable) : List Waiter := t.channels.mapIdx fun n c => c.waiter (t.holds n)

def next (t : SenderTable) : TrackerMove → SenderTable
  | .tracked id => t.track id
  | .observed outcome => (t.observe outcome).1
  | .cleared => t.clear
  | .dropped n => t.dropWaiter n

/-- What the table answers to a move. -/
def reply (t : SenderTable) : TrackerMove → Option Bool
  | .observed outcome => some (t.observe outcome).2
  | _ => none

/-- A table makes the moves, and answers this; its entries may change places at any time. -/
inductive Runs : SenderTable → List TrackerMove → List (Option Bool) → SenderTable → Prop
  | nil {t u : SenderTable} (hperm : t.entries.Perm u.entries) (hsame : t.channels = u.channels) :
    Runs t [] [] u
  | cons {t u v : SenderTable} {move : TrackerMove} {moves : List TrackerMove}
    {replies : List (Option Bool)} (hperm : t.entries.Perm u.entries)
    (hsame : t.channels = u.channels) (hrest : Runs (u.next move) moves replies v) :
    Runs t (move :: moves) (u.reply move :: replies) v

theorem exists_runs (t : SenderTable) (moves : List TrackerMove) :
    ∃ replies u, t.Runs moves replies u := by
  induction moves generalizing t with
  | nil => exact ⟨[], t, .nil (.refl _) rfl⟩
  | cons move moves ih =>
    obtain ⟨replies, u, hruns⟩ := ih (t.next move)
    exact ⟨_, u, .cons (.refl _) rfl hruns⟩

theorem getElem?_waiters (t : SenderTable) (n : Nat) :
    t.waiters[n]? = t.channels[n]?.map fun c => c.waiter (t.holds n) :=
  List.getElem?_mapIdx

theorem holds_iff {t : SenderTable} {n : Nat} :
    t.holds n = true ↔ ∃ e ∈ t.entries, n ∈ e.2 := by
  simp only [holds, List.any_eq_true, List.contains_iff_mem]

end SenderTable

/-- A table tells the same of the waiters and of the payments under way as a tracker. -/
structure SenderTable.Shows (t : SenderTable) (p : PaymentTracker) : Prop where
  waiters : t.waiters = p.waiters
  isTracking : ∀ id, t.isTracking id = p.isTracking id
  size : t.size = p.size

/-! ## Tables of a tracker -/

/-- There is one entry for each payment under way, its senders are those of channels for that
    payment that nothing was sent through, and the waiters are those of the tracker. -/
structure SenderTable.Agrees (t : SenderTable) (p : PaymentTracker) : Prop where
  ids : (t.entries.map (·.1)).Nodup
  tracked : ∀ id, id ∈ t.entries.map (·.1) ↔ id ∈ p.tracked
  nodup : p.tracked.Nodup
  unused : ∀ e ∈ t.entries, ∀ n ∈ e.2,
    ∃ c, t.channels[n]? = some c ∧ c.id = e.1 ∧ c.sent = none
  waiters : t.waiters = p.waiters

namespace SenderTable.Agrees

variable {t : SenderTable} {p : PaymentTracker}

theorem empty : SenderTable.empty.Agrees .empty where
  ids := .nil
  tracked _ := Iff.rfl
  nodup := .nil
  unused := nofun
  waiters := rfl

theorem perm (h : t.Agrees p) {u : SenderTable} (hperm : t.entries.Perm u.entries)
    (hsame : t.channels = u.channels) : u.Agrees p where
  ids := (hperm.map _).nodup_iff.1 h.ids
  tracked id := (hperm.map _).mem_iff.symm.trans (h.tracked id)
  nodup := h.nodup
  unused e he := hsame ▸ h.unused e (hperm.mem_iff.2 he)
  waiters := by
    have hholds : u.holds = t.holds := by
      funext n
      rw [Bool.eq_iff_iff, holds_iff, holds_iff]
      exact exists_congr fun e => and_congr_left fun _ => hperm.mem_iff.symm
    rw [SenderTable.waiters, hholds, ← hsame]
    exact h.waiters

theorem senders?_eq_some_iff (h : t.Agrees p) {id : PaymentId} {senders : List Nat} :
    t.senders? id = some senders ↔ (id, senders) ∈ t.entries := find?_key_eq_some_iff h.ids

theorem senders?_eq_none_iff (h : t.Agrees p) {id : PaymentId} :
    t.senders? id = none ↔ id ∉ p.tracked := by
  rw [← h.tracked, Option.eq_none_iff_forall_ne_some, List.mem_map]
  constructor
  · rintro hnone ⟨e, he, rfl⟩
    exact hnone e.2 (h.senders?_eq_some_iff.2 he)
  · intro hmiss senders hsome
    exact hmiss ⟨_, h.senders?_eq_some_iff.1 hsome, rfl⟩

/-! ### What a table tells -/

theorem isTracking_eq (h : t.Agrees p) (id : PaymentId) : t.isTracking id = p.isTracking id := by
  rw [Bool.eq_iff_iff, PaymentTracker.isTracking_iff, isTracking, ← Option.ne_none_iff_isSome,
    Ne, h.senders?_eq_none_iff, not_not]

theorem size_eq (h : t.Agrees p) : t.size = p.size := by
  have hperm : (t.entries.map (·.1)).Perm p.tracked :=
    (List.perm_ext_iff_of_nodup h.ids h.nodup).2 h.tracked
  rw [size, ← List.length_map (·.1), hperm.length_eq, PaymentTracker.size]

theorem shows (h : t.Agrees p) : t.Shows p := ⟨h.waiters, h.isTracking_eq, h.size_eq⟩

/-! ### A new waiter -/

/-- A new sender joins the entry of its payment, and the other entries stay as they are. -/
theorem mem_push (h : t.Agrees p) {id : PaymentId} {n : Nat} {e : PaymentId × List Nat} :
    e ∈ t.push id n ↔ (e ∈ t.entries ∧ e.1 ≠ id) ∨ e = (id, (t.senders? id).getD [] ++ [n]) := by
  rw [push]
  cases hs : t.senders? id with
  | none =>
    have hother : ∀ e ∈ t.entries, e.1 ≠ id := by
      rintro e he rfl
      rw [h.senders?_eq_some_iff.2 he] at hs
      cases hs
    rw [if_neg (by exact Bool.false_ne_true), List.mem_append, List.mem_singleton]
    exact or_congr_left ⟨fun he => ⟨he, hother e he⟩, And.left⟩
  | some senders =>
    have hmem : (id, senders) ∈ t.entries := h.senders?_eq_some_iff.1 hs
    rw [if_pos (by exact rfl), mem_map_behind_iff, Option.getD_some]
    refine or_congr_right ⟨?_, fun he => ⟨senders, hmem, he⟩⟩
    rintro ⟨senders', he, rfl⟩
    rw [Option.some.inj (hs.symm.trans (h.senders?_eq_some_iff.2 he))]

theorem ids_push (h : t.Agrees p) (id : PaymentId) (n : Nat) :
    ((t.push id n).map (·.1)).Nodup ∧
      ∀ id', id' ∈ (t.push id n).map (·.1) ↔ id' ∈ p.tracked ∨ id' = id := by
  rw [push]
  cases hs : t.senders? id with
  | none =>
    have hmiss : id ∉ p.tracked := h.senders?_eq_none_iff.1 hs
    rw [if_neg (by exact Bool.false_ne_true), List.map_append]
    refine ⟨List.concat_eq_append ▸ h.ids.concat fun hmem => hmiss ((h.tracked id).1 hmem), ?_⟩
    intro id'
    rw [List.mem_append, h.tracked, List.map_singleton, List.mem_singleton]
  | some senders =>
    have hkeys : (t.entries.map fun e => (e.1, if e.1 = id then e.2 ++ [n] else e.2)).map (·.1) =
        t.entries.map (·.1) := List.map_map
    have hmem : id ∈ p.tracked :=
      (h.tracked id).1 (List.mem_map_of_mem (h.senders?_eq_some_iff.1 hs))
    rw [if_pos (by exact rfl), hkeys]
    refine ⟨h.ids, fun id' => (h.tracked id').trans ⟨Or.inl, ?_⟩⟩
    rintro (hid | rfl)
    · exact hid
    · exact hmem

theorem mem_getD_senders? (h : t.Agrees p) {id : PaymentId} {n : Nat} :
    n ∈ (t.senders? id).getD [] ↔ ∃ e ∈ t.entries, e.1 = id ∧ n ∈ e.2 := by
  cases hs : t.senders? id with
  | none =>
    refine iff_of_false List.not_mem_nil ?_
    rintro ⟨e, he, rfl, -⟩
    rw [h.senders?_eq_some_iff.2 he] at hs
    cases hs
  | some senders =>
    refine ⟨fun hn => ⟨_, h.senders?_eq_some_iff.1 hs, rfl, hn⟩, ?_⟩
    rintro ⟨e, he, rfl, hn⟩
    rw [h.senders?_eq_some_iff.2 he] at hs
    exact Option.some.inj hs ▸ hn

theorem holds_track (h : t.Agrees p) (id : PaymentId) (n : Nat) :
    (t.track id).holds n = true ↔ t.holds n = true ∨ n = t.channels.length := by
  rw [holds_iff, holds_iff, track]
  constructor
  · rintro ⟨e, he, hn⟩
    rcases h.mem_push.1 he with ⟨he, -⟩ | rfl
    · exact Or.inl ⟨e, he, hn⟩
    · rcases List.mem_append.1 hn with hn | hn
      · obtain ⟨e, he, -, hn⟩ := h.mem_getD_senders?.1 hn
        exact Or.inl ⟨e, he, hn⟩
      · exact Or.inr (List.mem_singleton.1 hn)
  · have hpushed : (id, (t.senders? id).getD [] ++ [t.channels.length]) ∈
        t.push id t.channels.length := h.mem_push.2 (Or.inr rfl)
    rintro (⟨e, he, hn⟩ | rfl)
    · by_cases hid : e.1 = id
      · exact ⟨_, hpushed, List.mem_append_left _ (h.mem_getD_senders?.2 ⟨e, he, hid, hn⟩)⟩
      · exact ⟨e, h.mem_push.2 (Or.inl ⟨he, hid⟩), hn⟩
    · exact ⟨_, hpushed, List.mem_append_right _ List.mem_cons_self⟩

theorem track (h : t.Agrees p) (id : PaymentId) : (t.track id).Agrees (p.track id) where
  ids := (h.ids_push id _).1
  tracked id' := ((h.ids_push id _).2 id').trans PaymentTracker.mem_track_tracked.symm
  nodup := PaymentTracker.next_tracked_nodup h.nodup (.tracked id)
  unused e he n hn := by
    have hold : ∀ e ∈ t.entries, n ∈ e.2 →
        ∃ c, (t.channels ++ [⟨id, none, true⟩])[n]? = some c ∧ c.id = e.1 ∧ c.sent = none := by
      intro e he hn
      obtain ⟨c, hc, hfits⟩ := h.unused e he n hn
      exact ⟨c, by rw [List.getElem?_append_left (List.getElem?_eq_some_iff.1 hc).1, hc], hfits⟩
    rcases h.mem_push.1 he with ⟨he, -⟩ | rfl
    · exact hold e he hn
    · rcases List.mem_append.1 hn with hn | hn
      · obtain ⟨e, hmem, rfl, hsender⟩ := h.mem_getD_senders?.1 hn
        exact hold e hmem hsender
      · rw [List.mem_singleton.1 hn]
        exact ⟨_, List.getElem?_concat_length, rfl, rfl⟩
  waiters := by
    have hold : t.channels.mapIdx (fun n c => c.waiter ((t.track id).holds n)) = t.waiters := by
      refine List.ext_getElem? fun n => ?_
      rw [List.getElem?_mapIdx, getElem?_waiters]
      cases hc : t.channels[n]? with
      | none => rfl
      | some c =>
        have hn : n ≠ t.channels.length := Nat.ne_of_lt (List.getElem?_eq_some_iff.1 hc).1
        have hheld : (t.track id).holds n = t.holds n := by
          rw [Bool.eq_iff_iff, h.holds_track]
          exact or_iff_left hn
        rw [Option.map_some, Option.map_some, hheld]
    have hnew : (t.track id).holds t.channels.length = true :=
      (h.holds_track id _).2 (Or.inr rfl)
    rw [PaymentTracker.track_waiters, ← h.waiters, ← hold]
    refine List.mapIdx_concat.trans ?_
    rw [hnew]
    rfl

/-! ### The end of a payment -/

theorem getElem?_foldl_send (outcome : PaymentOutcome) (senders : List Nat)
    (channels : List WaitChannel) (n : Nat) :
    (senders.foldl (fun cs n => cs.modify n (·.send outcome)) channels)[n]? =
      channels[n]?.map fun c => if n ∈ senders then c.send outcome else c := by
  induction senders generalizing channels with
  | nil => simp
  | cons m senders ih =>
    rw [List.foldl_cons, ih, List.getElem?_modify]
    cases channels[n]? with
    | none => rfl
    | some c =>
      by_cases hm : m = n
      · subst hm
        by_cases hmem : m ∈ senders <;> simp [hmem, WaitChannel.send_send]
      · have hiff : n ∈ m :: senders ↔ n ∈ senders := by
          rw [List.mem_cons]
          exact or_iff_right (Ne.symm hm)
        simp only [if_neg hm, hiff]
        rfl

/-- A channel whose sender stays in the table is one of another payment. -/
theorem id_ne_of_holds (h : t.Agrees p) {id : PaymentId} {senders : List Nat}
    (hentry : (id, senders) ∈ t.entries) {n : Nat} {c : WaitChannel}
    (hc : t.channels[n]? = some c) (hn : n ∉ senders) (hheld : t.holds n = true) : c.id ≠ id := by
  obtain ⟨e, he, hmem⟩ := holds_iff.1 hheld
  obtain ⟨c', hc', hid, -⟩ := h.unused e he n hmem
  rintro rfl
  rw [hc, Option.some.injEq] at hc'
  subst hc'
  rw [List.inj_on_of_nodup_map h.ids he hentry hid.symm] at hmem
  exact hn hmem

/-- Using the senders of a payment settles its waiters. -/
theorem settle (h : t.Agrees p) {outcome : PaymentOutcome} {senders : List Nat}
    (hentry : (outcome.paymentId, senders) ∈ t.entries) :
    SenderTable.Agrees
      ⟨t.entries.filter (·.1 != outcome.paymentId),
        senders.foldl (fun cs n => cs.modify n (·.send outcome)) t.channels⟩
      ⟨p.tracked.filter (· != outcome.paymentId), p.waiters.map (Waiter.settle outcome)⟩ where
  ids := h.ids.sublist (List.filter_sublist.map _)
  tracked id := by
    rw [List.mem_filter, ← h.tracked, bne_iff_ne, List.mem_map, List.mem_map]
    constructor
    · rintro ⟨e, he, rfl⟩
      exact ⟨⟨e, (List.mem_filter.1 he).1, rfl⟩, bne_iff_ne.1 (List.mem_filter.1 he).2⟩
    · rintro ⟨⟨e, he, rfl⟩, hid⟩
      exact ⟨e, List.mem_filter.2 ⟨he, bne_iff_ne.2 hid⟩, rfl⟩
  nodup := h.nodup.filter _
  unused e he n hn := by
    obtain ⟨he, hid⟩ := List.mem_filter.1 he
    obtain ⟨c, hc, hcid, hsent⟩ := h.unused e he n hn
    have hother : n ∉ senders := by
      intro hmem
      obtain ⟨c', hc', hcid', -⟩ := h.unused _ hentry n hmem
      rw [hc, Option.some.injEq] at hc'
      rw [bne_iff_ne, ← hcid, hc'] at hid
      exact hid hcid'
    exact ⟨c, by rw [getElem?_foldl_send, hc, Option.map_some, if_neg hother], hcid, hsent⟩
  waiters := by
    refine List.ext_getElem? fun n => ?_
    rw [getElem?_waiters, List.getElem?_map, ← h.waiters, getElem?_waiters, getElem?_foldl_send]
    cases hc : t.channels[n]? with
    | none => rfl
    | some c =>
      refine congrArg some ?_
      show (if n ∈ senders then c.send outcome else c).waiter _ =
        (c.waiter (t.holds n)).settle outcome
      by_cases hn : n ∈ senders
      · obtain ⟨c', hc', hid, hsent⟩ := h.unused _ hentry n hn
        obtain rfl : c = c' := Option.some.inj (hc.symm.trans hc')
        have hheld : t.holds n = true := holds_iff.2 ⟨_, hentry, hn⟩
        rw [if_pos hn, hheld]
        exact WaitChannel.waiter_send hid hsent _
      · have hother := h.id_ne_of_holds hentry hc hn
        -- the entries that hold the sender are those before, less one that does not hold it
        have hheld : SenderTable.holds ⟨t.entries.filter (·.1 != outcome.paymentId), []⟩ n =
            t.holds n := by
          rw [Bool.eq_iff_iff, holds_iff, holds_iff]
          constructor
          · rintro ⟨e, he, hmem⟩
            exact ⟨e, (List.mem_filter.1 he).1, hmem⟩
          · rintro ⟨e, he, hmem⟩
            obtain ⟨c', hc', hid, -⟩ := h.unused e he n hmem
            obtain rfl : c = c' := Option.some.inj (hc.symm.trans hc')
            have hne := hother (holds_iff.2 ⟨e, he, hmem⟩)
            exact ⟨e, List.mem_filter.2 ⟨he, bne_iff_ne.2 (hid ▸ hne)⟩, hmem⟩
        rw [if_neg hn, WaitChannel.settle_waiter hother, ← hheld]
        rfl

theorem observe (h : t.Agrees p) (outcome : PaymentOutcome) :
    (t.observe outcome).1.Agrees (p.observe outcome).1 ∧
      (t.observe outcome).2 = (p.observe outcome).2 := by
  rw [PaymentTracker.observe, SenderTable.observe, ← h.isTracking_eq, isTracking]
  cases hs : t.senders? outcome.paymentId with
  | none => exact ⟨h, rfl⟩
  | some senders => exact ⟨h.settle (h.senders?_eq_some_iff.1 hs), rfl⟩

theorem clear (h : t.Agrees p) : t.clear.Agrees p.clear where
  ids := .nil
  tracked _ := Iff.rfl
  nodup := .nil
  unused := nofun
  waiters := by
    refine List.ext_getElem? fun n => ?_
    rw [getElem?_waiters, PaymentTracker.clear, List.getElem?_map, ← h.waiters, getElem?_waiters,
      Option.map_map]
    exact congrArg (fun f => Option.map f t.channels[n]?)
      (funext fun c => (c.abort_waiter _).symm)

theorem dropWaiter (h : t.Agrees p) (n : Nat) : (t.dropWaiter n).Agrees (p.dropWaiter n) where
  ids := h.ids
  tracked := h.tracked
  nodup := h.nodup
  unused e he m hm := by
    obtain ⟨c, hc, hid, hsent⟩ := h.unused e he m hm
    rw [SenderTable.dropWaiter, List.getElem?_modify, hc]
    by_cases hn : n = m <;> simp [hn, hid, hsent]
  waiters := by
    refine List.ext_getElem? fun m => ?_
    rw [getElem?_waiters, PaymentTracker.dropWaiter, ← h.waiters, SenderTable.dropWaiter,
      List.getElem?_modify]
    by_cases hn : n = m
    · subst hn
      rw [List.getElem?_set_self', getElem?_waiters]
      cases t.channels[n]? <;> simp [WaitChannel.waiter]
    · rw [List.getElem?_set_ne hn, getElem?_waiters]
      simp only [if_neg hn, id_map']
      rfl

/-- **One move preserves `Agrees`, and the answers are the same.** -/
theorem next (h : t.Agrees p) (move : TrackerMove) :
    (t.next move).Agrees (p.next move) ∧ t.reply move = p.reply move := by
  cases move with
  | tracked id => exact ⟨h.track id, rfl⟩
  | observed outcome =>
    obtain ⟨hafter, htold⟩ := h.observe outcome
    exact ⟨hafter, congrArg some htold⟩
  | cleared => exact ⟨h.clear, rfl⟩
  | dropped n => exact ⟨h.dropWaiter n, rfl⟩

end SenderTable.Agrees

/-- **A run of moves preserves `Agrees`**, in whatever order the entries stand. -/
theorem SenderTable.Runs.agrees {t u : SenderTable} {p : PaymentTracker} {moves : List TrackerMove}
    {replies : List (Option Bool)} (hruns : t.Runs moves replies u) (h : t.Agrees p) :
    replies = p.replies moves ∧ u.Agrees (p.run moves) := by
  induction hruns generalizing p with
  | nil hperm hsame => exact ⟨rfl, h.perm hperm hsame⟩
  | cons hperm hsame _ ih =>
    obtain ⟨hu, hreply⟩ := (h.perm hperm hsame).next _
    obtain ⟨hreplies, hlast⟩ := ih hu
    exact ⟨by rw [hreply, hreplies]; rfl, hlast⟩

/-! ## Histories -/

namespace PaymentTracker

/-- **A tracker is as its history says**: the waiters by `Waiter.fate`, the payments under way by
    `UnderWay`. Every `SenderTable` with the same moves answers and shows the same. -/
theorem matches_history :
    (∀ moves, (empty.run moves).waiters.length = moves.countP (·.adds)) ∧
    (∀ before id after,
      (empty.run (before ++ .tracked id :: after)).waiters[before.countP (·.adds)]? =
        some (if .dropped (before.countP (·.adds)) ∈ after then .dropped
          else Waiter.fate id after)) ∧
    (∀ moves later n w, (empty.run moves).waiters[n]? = some w → w.isResolved = true →
      .dropped n ∉ later → (empty.run (moves ++ later)).waiters[n]? = some w) ∧
    (∀ moves later n m id, (empty.run moves).waiters[n]? = some (.pending id) →
      (empty.run moves).waiters[m]? = some (.pending id) → .dropped n ∉ later →
      .dropped m ∉ later →
      (empty.run (moves ++ later)).waiters[n]? = (empty.run (moves ++ later)).waiters[m]?) ∧
    (∀ before n after,
      let dropped := empty.run (before ++ .dropped n :: after)
      let kept := empty.run (before ++ after)
      dropped.tracked = kept.tracked ∧ ∀ m, m ≠ n → dropped.waiters[m]? = kept.waiters[m]?) ∧
    (∀ moves outcome,
      ((empty.run moves).observe outcome).2 = true ↔ UnderWay outcome.paymentId moves) ∧
    (∀ moves id, (empty.run moves).isTracking id = true ↔ UnderWay id moves) ∧
    (∀ moves, (empty.run moves).size = {id | UnderWay id moves}.ncard) ∧
    (∀ moves, (∃ replies u, SenderTable.empty.Runs moves replies u) ∧
      ∀ replies u, SenderTable.empty.Runs moves replies u →
        replies = empty.replies moves ∧ u.Shows (empty.run moves)) := by
  have htracking (moves : List TrackerMove) (id : PaymentId) :
      (empty.run moves).isTracking id = true ↔ UnderWay id moves :=
    isTracking_iff.trans mem_run_tracked
  refine ⟨fun moves => ?_, fun before id after => waiters_run_tracked before after id,
    fun moves later n w hw hresolved hn => ?_, fun moves later n m id hn hm hnl hml => ?_,
    fun before n after => ?_, fun moves outcome => ?_, htracking, size_run, fun moves => ?_⟩
  · exact (run_waiters_length empty moves).trans (Nat.zero_add _)
  · rw [run_append, run_waiters (sound_empty.run moves) hw, if_neg hn,
      Waiter.foldl_hear_resolved hresolved]
  · rw [run_append, run_waiters (sound_empty.run moves) hn, if_neg hnl,
      run_waiters (sound_empty.run moves) hm, if_neg hml]
  · intro dropped kept
    have hsame : dropped.dropWaiter n = kept.dropWaiter n := by
      show (empty.run _).dropWaiter n = (empty.run _).dropWaiter n
      rw [run_append, run_append]
      exact run_dropWaiter (empty.run before) n after
    have htracked : (dropped.dropWaiter n).tracked = (kept.dropWaiter n).tracked := by rw [hsame]
    refine ⟨htracked, fun m hm => ?_⟩
    have hwaiters := congrArg (fun t => t.waiters[m]?) hsame
    simpa only [dropWaiter, List.getElem?_set_ne hm.symm] using hwaiters
  · rw [observe_eq_isTracking]
    exact htracking moves outcome.paymentId
  · refine ⟨SenderTable.empty.exists_runs moves, fun replies u hruns => ?_⟩
    obtain ⟨hreplies, hu⟩ := hruns.agrees .empty
    exact ⟨hreplies, hu.shows⟩

end PaymentTracker
end LightningLottery
