/-
  What the history of a tracker says about it.

  * `TrackerMove`, `PaymentTracker.run`: what can happen to a tracker, and where it leads.
  * `Waiter.fate`: what becomes of one who waits for a payment, by the moves that follow.
  * `UnderWay`: whether a payment is under way, by the moves so far.
  * `run_waiters`, `mem_run_tracked`: the waiters and the tracked payments are as the history says.
  * `next_dropWaiter`, `run_dropWaiter`: a waiter that is dropped makes no difference to the others.
-/
import Mathlib.Data.Set.Card
import LightningLottery.Proofs.Lists
import LightningLottery.Proofs.Payment.Waiter

namespace LightningLottery

/-- What can happen to a tracker. -/
inductive TrackerMove where
  | tracked (id : PaymentId)
  | observed (outcome : PaymentOutcome)
  | cleared
  /-- The waiter with this index is dropped. -/
  | dropped (n : Nat)
  deriving DecidableEq

namespace TrackerMove

/-- Whether a move ends the wait for a payment. -/
def ends (id : PaymentId) : TrackerMove → Bool
  | .observed outcome => outcome.paymentId == id
  | .cleared => true
  | _ => false

/-- Whether a move adds a waiter. -/
def adds : TrackerMove → Bool
  | .tracked _ => true
  | _ => false

end TrackerMove

/-- A payment is under way if it was tracked, and nothing has ended the wait for it since. -/
def UnderWay (id : PaymentId) (moves : List TrackerMove) : Prop :=
  ∃ before after, moves = before ++ .tracked id :: after ∧ ∀ move ∈ after, move.ends id = false

/-! ## Waiters -/

namespace Waiter

/-- What becomes of one who waits for a payment: the first move counts that ends the wait. -/
def fate (id : PaymentId) (moves : List TrackerMove) : Waiter :=
  match moves.find? (·.ends id) with
  | some (.observed outcome) => .settled outcome
  | some _ => .aborted
  | none => .pending id

def isResolved : Waiter → Bool
  | .pending _ => false
  | _ => true

/-- What a waiter makes of a move, unless it is dropped by it. -/
def hear (w : Waiter) : TrackerMove → Waiter
  | .observed outcome => w.settle outcome
  | .cleared => w.abort
  | _ => w

theorem hear_resolved {w : Waiter} (h : w.isResolved = true) (move : TrackerMove) :
    w.hear move = w := by
  cases w with
  | pending id => cases h
  | _ => cases move <;> rfl

theorem foldl_hear_resolved {w : Waiter} (h : w.isResolved = true) (moves : List TrackerMove) :
    moves.foldl hear w = w := by
  induction moves with
  | nil => rfl
  | cons move moves ih => rw [List.foldl_cons, hear_resolved h, ih]

/-- **A pending waiter that hears all moves has the fate that `fate` computes.** -/
theorem foldl_hear_pending (id : PaymentId) (moves : List TrackerMove) :
    moves.foldl hear (.pending id) = fate id moves := by
  induction moves with
  | nil => rfl
  | cons move moves ih =>
    rw [List.foldl_cons]
    cases move with
    | tracked id' => exact ih
    | dropped n => exact ih
    | cleared => exact foldl_hear_resolved rfl moves
    | observed outcome =>
      by_cases h : outcome.paymentId = id
      · have hhear : (pending id).hear (.observed outcome) = settled outcome := if_pos h.symm
        have hends : (TrackerMove.observed outcome).ends id = true := beq_iff_eq.2 h
        rw [hhear, foldl_hear_resolved rfl, fate, List.find?_cons_of_pos hends]
      · have hhear : (pending id).hear (.observed outcome) = pending id :=
          if_neg fun he => h he.symm
        have hends : ¬ (TrackerMove.observed outcome).ends id = true := fun he =>
          h (beq_iff_eq.1 he)
        rw [hhear, ih, fate, fate, List.find?_cons_of_neg hends]

end Waiter

/-! ## Trackers -/

namespace PaymentTracker

def next (t : PaymentTracker) : TrackerMove → PaymentTracker
  | .tracked id => t.track id
  | .observed outcome => (t.observe outcome).1
  | .cleared => t.clear
  | .dropped n => t.dropWaiter n

def run (t : PaymentTracker) (moves : List TrackerMove) : PaymentTracker := moves.foldl next t

theorem run_append (t : PaymentTracker) (first later : List TrackerMove) :
    t.run (first ++ later) = (t.run first).run later := List.foldl_append

theorem Sound.next {t : PaymentTracker} (h : t.Sound) (move : TrackerMove) : (t.next move).Sound := by
  cases move with
  | tracked id => exact h.track id
  | observed outcome => exact h.observe outcome
  | cleared =>
    intro id hmem
    obtain ⟨w, -, hw⟩ := List.mem_map.1 hmem
    cases w <;> cases hw
  | dropped n =>
    intro id hmem
    rcases List.mem_or_eq_of_mem_set hmem with hold | hnew
    · exact h id hold
    · cases hnew

theorem Sound.run {t : PaymentTracker} (h : t.Sound) (moves : List TrackerMove) :
    (t.run moves).Sound := by
  induction moves generalizing t with
  | nil => exact h
  | cons move moves ih => exact ih (h.next move)

theorem next_waiters {t : PaymentTracker} (h : t.Sound) {n : Nat} {w : Waiter}
    (hw : t.waiters[n]? = some w) (move : TrackerMove) :
    (t.next move).waiters[n]? = some (if move = .dropped n then .dropped else w.hear move) := by
  cases move with
  | tracked id =>
    have hn : n < t.waiters.length := (List.getElem?_eq_some_iff.1 hw).1
    exact (List.getElem?_append_left hn).trans hw
  | observed outcome =>
    rw [next, observe_waiters h, List.getElem?_map, hw]
    rfl
  | cleared =>
    rw [next, clear, List.getElem?_map, hw]
    rfl
  | dropped m =>
    have hn : n < t.waiters.length := (List.getElem?_eq_some_iff.1 hw).1
    by_cases hm : m = n
    · rw [hm, if_pos rfl]
      exact List.getElem?_set_self hn
    · rw [if_neg fun he => hm (TrackerMove.dropped.inj he)]
      exact (List.getElem?_set_ne hm).trans hw

/-- **A waiter is dropped, or hears the moves one after the other.** -/
theorem run_waiters {t : PaymentTracker} (h : t.Sound) {n : Nat} {w : Waiter}
    (hw : t.waiters[n]? = some w) (moves : List TrackerMove) :
    (t.run moves).waiters[n]? =
      some (if .dropped n ∈ moves then .dropped else moves.foldl Waiter.hear w) := by
  induction moves generalizing t w with
  | nil => exact hw
  | cons move moves ih =>
    rw [run, List.foldl_cons]
    refine (ih (h.next move) (next_waiters h hw move)).trans (congrArg some ?_)
    -- Once dropped, a waiter stays so: it does not matter when.
    by_cases hlater : .dropped n ∈ moves
    · rw [if_pos hlater, if_pos (List.mem_cons_of_mem _ hlater)]
    · rw [if_neg hlater, List.foldl_cons]
      by_cases hmove : move = .dropped n
      · rw [if_pos hmove, if_pos (hmove ▸ List.mem_cons_self), Waiter.foldl_hear_resolved rfl]
      · rw [if_neg hmove, if_neg fun hmem => ?_]
        rcases List.mem_cons.1 hmem with he | hmem
        · exact hmove he.symm
        · exact hlater hmem

theorem next_waiters_length (t : PaymentTracker) (move : TrackerMove) :
    (t.next move).waiters.length = t.waiters.length + if move.adds then 1 else 0 := by
  cases move with
  | tracked id => exact List.length_append
  | observed outcome =>
    simp only [next, observe]
    split
    · exact List.length_map _
    · rfl
  | cleared => exact List.length_map _
  | dropped n => exact List.length_set

/-- Each payment that is tracked adds one waiter, and nothing takes one away. -/
theorem run_waiters_length (t : PaymentTracker) (moves : List TrackerMove) :
    (t.run moves).waiters.length = t.waiters.length + moves.countP (·.adds) := by
  induction moves generalizing t with
  | nil => rfl
  | cons move moves ih =>
    rw [run, List.foldl_cons]
    refine (ih (t.next move)).trans ?_
    rw [next_waiters_length, List.countP_cons]
    omega

/-! ## Payments under way -/

theorem not_underWay_nil (id : PaymentId) : ¬ UnderWay id [] := by
  rintro ⟨before, after, h, -⟩
  cases before <;> cases h

theorem underWay_concat {id : PaymentId} {moves : List TrackerMove} {move : TrackerMove} :
    UnderWay id (moves ++ [move]) ↔
      move = .tracked id ∨ (UnderWay id moves ∧ move.ends id = false) := by
  constructor
  · rintro ⟨before, after, heq, hafter⟩
    rcases concat_eq_append_cons_iff.1 heq with ⟨-, hmove, -⟩ | ⟨after', rfl, hmoves⟩
    · exact Or.inl hmove
    · refine Or.inr ⟨⟨before, after', hmoves, fun m hm => ?_⟩, ?_⟩
      · exact hafter m (List.mem_append_left _ hm)
      · exact hafter move (List.mem_append_right _ List.mem_cons_self)
  · rintro (rfl | ⟨⟨before, after, rfl, hafter⟩, hmove⟩)
    · exact ⟨moves, [], rfl, nofun⟩
    · refine ⟨before, after ++ [move], by rw [List.append_assoc, List.cons_append], fun m hm => ?_⟩
      rcases List.mem_append.1 hm with hm | hm
      · exact hafter m hm
      · exact List.mem_singleton.1 hm ▸ hmove

theorem mem_next_tracked {t : PaymentTracker} {move : TrackerMove} {id : PaymentId} :
    id ∈ (t.next move).tracked ↔ move = .tracked id ∨ (id ∈ t.tracked ∧ move.ends id = false) := by
  cases move with
  | tracked id' =>
    rw [next, mem_track_tracked, TrackerMove.tracked.injEq, or_comm, @eq_comm _ id]
    exact or_congr_right ⟨fun h => ⟨h, rfl⟩, And.left⟩
  | observed outcome =>
    rw [next, mem_observe_tracked, TrackerMove.ends, beq_eq_false_iff_ne, ne_comm]
    exact ⟨Or.inr, fun h => h.resolve_left nofun⟩
  | cleared => exact ⟨nofun, fun h => absurd (h.resolve_left nofun).2 nofun⟩
  | dropped n => exact ⟨fun h => Or.inr ⟨h, rfl⟩, fun h => (h.resolve_left nofun).1⟩

/-- **The tracked ids are those that are `UnderWay`.** -/
theorem mem_run_tracked {moves : List TrackerMove} {id : PaymentId} :
    id ∈ (empty.run moves).tracked ↔ UnderWay id moves := by
  -- The last move decides, so the induction takes it off.
  induction moves using List.reverseRecOn with
  | nil => exact iff_of_false List.not_mem_nil (not_underWay_nil id)
  | append_singleton moves move ih =>
    rw [run_append, underWay_concat, ← ih]
    exact mem_next_tracked

theorem next_tracked_nodup {t : PaymentTracker} (h : t.tracked.Nodup) (move : TrackerMove) :
    (t.next move).tracked.Nodup := by
  cases move with
  | tracked id =>
    simp only [next, track]
    split
    · exact h
    · next hn =>
      rw [isTracking_iff] at hn
      exact List.concat_eq_append ▸ h.concat hn
  | observed outcome =>
    simp only [next, observe]
    split
    · exact h.filter _
    · exact h
  | cleared => exact List.nodup_nil
  | dropped n => exact h

theorem run_tracked_nodup {t : PaymentTracker} (h : t.tracked.Nodup) (moves : List TrackerMove) :
    (t.run moves).tracked.Nodup := by
  induction moves generalizing t with
  | nil => exact h
  | cons move moves ih => exact ih (next_tracked_nodup h move)

theorem size_run (moves : List TrackerMove) :
    (empty.run moves).size = {id | UnderWay id moves}.ncard := by
  have hset : {id | UnderWay id moves} = ((empty.run moves).tracked.toFinset : Set PaymentId) := by
    ext id
    rw [Set.mem_ofPred_eq, Finset.mem_coe, List.mem_toFinset, mem_run_tracked]
  rw [hset, Set.ncard_coe_finset, List.toFinset_card_of_nodup (run_tracked_nodup List.nodup_nil _)]
  rfl

theorem observe_eq_isTracking (t : PaymentTracker) (outcome : PaymentOutcome) :
    (t.observe outcome).2 = t.isTracking outcome.paymentId := by
  unfold observe
  split
  · next h => exact h.symm
  · next h => exact (Bool.eq_false_iff.2 h).symm

/-! ## Dropped waiters -/

theorem set_map_set {f : Waiter → Waiter} (ws : List Waiter) (n : Nat) (d : Waiter) :
    ((ws.set n d).map f).set n d = (ws.map f).set n d := by
  rw [List.map_set, List.set_set]

theorem set_append_set (ws more : List Waiter) (n : Nat) (d : Waiter) :
    (ws.set n d ++ more).set n d = (ws ++ more).set n d := by
  rw [List.set_append, List.set_append, List.length_set]
  split
  · rw [List.set_set]
  · next hn => rw [List.set_eq_of_length_le (Nat.not_lt.1 hn)]

/-- Moves do to the other waiters the same whether or not one has been dropped before. -/
theorem next_dropWaiter (t : PaymentTracker) (n : Nat) (move : TrackerMove) :
    ((t.dropWaiter n).next move).dropWaiter n = (t.next move).dropWaiter n := by
  cases move with
  | tracked id => exact congrArg (mk _) (set_append_set t.waiters [.pending id] n .dropped)
  | observed outcome =>
    by_cases h : t.isTracking outcome.paymentId = true
    · have hd : (t.dropWaiter n).isTracking outcome.paymentId = true := h
      rw [next, next, observe, observe, if_pos h, if_pos hd]
      exact congrArg (mk _) (set_map_set t.waiters n .dropped)
    · have hd : ¬ (t.dropWaiter n).isTracking outcome.paymentId = true := h
      rw [next, next, observe, observe, if_neg h, if_neg hd]
      exact congrArg (mk _) (List.set_set _)
  | cleared => exact congrArg (mk _) (set_map_set t.waiters n .dropped)
  | dropped k =>
    have hset : ((t.waiters.set n .dropped).set k .dropped).set n .dropped =
        (t.waiters.set k .dropped).set n .dropped := by
      by_cases hk : k = n
      · rw [hk, List.set_set]
      · rw [List.set_comm _ _ hk, List.set_set]
        exact List.set_comm _ _ (Ne.symm hk)
    exact congrArg (mk _) hset

theorem run_dropWaiter (t : PaymentTracker) (n : Nat) (moves : List TrackerMove) :
    ((t.dropWaiter n).run moves).dropWaiter n = (t.run moves).dropWaiter n := by
  induction moves using List.reverseRecOn with
  | nil => exact congrArg (mk _) (List.set_set _)
  | append_singleton moves move ih =>
    rw [run_append, run_append]
    show (((t.dropWaiter n).run moves).next move).dropWaiter n = _
    rw [← next_dropWaiter, ih, next_dropWaiter]
    rfl

/-! ## Histories -/

theorem waiters_run_tracked (before after : List TrackerMove) (id : PaymentId) :
    (empty.run (before ++ .tracked id :: after)).waiters[before.countP (·.adds)]? =
      some (if .dropped (before.countP (·.adds)) ∈ after then .dropped
        else Waiter.fate id after) := by
  have hlength : (empty.run before).waiters.length = before.countP (·.adds) :=
    (run_waiters_length empty before).trans (Nat.zero_add _)
  have hadded : ((empty.run before).track id).waiters[before.countP (·.adds)]? =
      some (.pending id) := by
    rw [track_waiters, ← hlength, List.getElem?_concat_length]
  rw [run_append, ← Waiter.foldl_hear_pending]
  exact run_waiters ((sound_empty.run before).track id) hadded after

end PaymentTracker
end LightningLottery
