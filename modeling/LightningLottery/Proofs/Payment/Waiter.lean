/-
  What becomes of those who wait for payments.

  * `PaymentTracker.Sound`: the payments that anyone waits for are under way.
  * `observe_waiters`: the end of a payment is told to all who wait for it, under way or not.
  * `settleAll_pending`: of several ends of one payment, the first counts.
  * `record_record`: an end that is told twice is told once.
-/
import LightningLottery.Payment.Tracker

namespace LightningLottery

namespace Waiter

/-- Tells a waiter the ends of payments, one after the other. -/
def settleAll (w : Waiter) (outcomes : List PaymentOutcome) : Waiter :=
  outcomes.foldl (fun w outcome => w.settle outcome) w

theorem settleAll_cons (w : Waiter) (outcome : PaymentOutcome) (outcomes : List PaymentOutcome) :
    w.settleAll (outcome :: outcomes) = (w.settle outcome).settleAll outcomes := rfl

theorem settleAll_append (w : Waiter) (first later : List PaymentOutcome) :
    w.settleAll (first ++ later) = (w.settleAll first).settleAll later :=
  List.foldl_append

theorem settleAll_settled (outcome : PaymentOutcome) (outcomes : List PaymentOutcome) :
    (settled outcome).settleAll outcomes = settled outcome := by
  induction outcomes with
  | nil => rfl
  | cons later outcomes ih => rw [settleAll_cons]; exact ih

/-- **A pending waiter is settled by the first outcome of its id.** -/
theorem settleAll_pending (id : PaymentId) (outcomes : List PaymentOutcome) :
    (pending id).settleAll outcomes =
      match outcomes.find? fun outcome => outcome.paymentId == id with
      | some outcome => settled outcome
      | none => pending id := by
  induction outcomes with
  | nil => rfl
  | cons outcome outcomes ih =>
    rw [settleAll_cons, List.find?_cons]
    by_cases h : outcome.paymentId = id
    · have hsettle : (pending id).settle outcome = settled outcome := if_pos h.symm
      rw [hsettle, settleAll_settled, beq_iff_eq.2 h]
    · have hsettle : (pending id).settle outcome = pending id := if_neg fun he => h he.symm
      rw [hsettle, ih, beq_eq_false_iff_ne.2 h]

theorem pending_of_settle {w : Waiter} {outcome : PaymentOutcome} {id : PaymentId}
    (h : w.settle outcome = pending id) : w = pending id ∧ id ≠ outcome.paymentId := by
  cases w with
  | pending id' =>
    simp only [settle] at h
    split at h
    · cases h
    · next hne => cases h; exact ⟨rfl, hne⟩
  | settled _ => cases h
  | aborted => cases h
  | dropped => cases h

end Waiter

namespace PaymentTracker

/-- The payments that anyone waits for are under way. -/
def Sound (t : PaymentTracker) : Prop := ∀ id, Waiter.pending id ∈ t.waiters → id ∈ t.tracked

theorem sound_empty : empty.Sound := fun _ h => nomatch h

theorem isTracking_iff {t : PaymentTracker} {id : PaymentId} :
    t.isTracking id = true ↔ id ∈ t.tracked := List.contains_iff_mem

theorem track_waiters (t : PaymentTracker) (id : PaymentId) :
    (t.track id).waiters = t.waiters ++ [.pending id] := rfl

theorem mem_track_tracked {t : PaymentTracker} {id id' : PaymentId} :
    id' ∈ (t.track id).tracked ↔ id' ∈ t.tracked ∨ id' = id := by
  simp only [track]
  split
  · next h =>
    rw [isTracking_iff] at h
    refine ⟨Or.inl, ?_⟩
    rintro (h' | rfl)
    · exact h'
    · exact h
  · rw [List.mem_append, List.mem_singleton]

theorem Sound.track {t : PaymentTracker} (h : t.Sound) (id : PaymentId) : (t.track id).Sound := by
  intro id' hmem
  rw [track_waiters, List.mem_append, List.mem_singleton, Waiter.pending.injEq] at hmem
  exact mem_track_tracked.2 (hmem.imp_left (h id'))

/-- **`observe` settles all waiters of the payment**, also when the payment is not tracked: then
    there are none. -/
theorem observe_waiters {t : PaymentTracker} (h : t.Sound) (outcome : PaymentOutcome) :
    (t.observe outcome).1.waiters = t.waiters.map (Waiter.settle outcome) := by
  unfold observe
  split
  · rfl
  · next hn =>
    rw [isTracking_iff] at hn
    refine (List.map_id t.waiters).symm.trans (List.map_congr_left fun w hw => ?_)
    cases w with
    | pending id =>
      refine (if_neg ?_).symm
      rintro rfl
      exact hn (h _ hw)
    | settled _ => rfl
    | aborted => rfl
    | dropped => rfl

theorem mem_observe_tracked {t : PaymentTracker} {outcome : PaymentOutcome} {id : PaymentId} :
    id ∈ (t.observe outcome).1.tracked ↔ id ∈ t.tracked ∧ id ≠ outcome.paymentId := by
  unfold observe
  split
  · simp only [List.mem_filter, bne_iff_ne, ne_eq]
  · next hn =>
    rw [isTracking_iff] at hn
    refine ⟨fun hm => ⟨hm, ?_⟩, And.left⟩
    rintro rfl
    exact hn hm

theorem Sound.observe {t : PaymentTracker} (h : t.Sound) (outcome : PaymentOutcome) :
    (t.observe outcome).1.Sound := by
  intro id hmem
  rw [observe_waiters h, List.mem_map] at hmem
  obtain ⟨w, hw, hsettle⟩ := hmem
  obtain ⟨rfl, hne⟩ := Waiter.pending_of_settle hsettle
  exact mem_observe_tracked.2 ⟨h id hw, hne⟩

theorem observe_observe (t : PaymentTracker) (outcome : PaymentOutcome) :
    (t.observe outcome).1.observe outcome = ((t.observe outcome).1, false) := by
  have hn : ¬ (t.observe outcome).1.isTracking outcome.paymentId = true := by
    rw [isTracking_iff, mem_observe_tracked]
    exact fun hm => hm.2 rfl
  generalize (t.observe outcome).1 = t' at hn
  rw [observe, if_neg hn]

/-- Records the end of a payment, if one is told. -/
def record (t : PaymentTracker) : Option PaymentOutcome → PaymentTracker
  | some outcome => (t.observe outcome).1
  | none => t

theorem record_record (t : PaymentTracker) (told : Option PaymentOutcome) :
    (t.record told).record told = t.record told := by
  cases told with
  | none => rfl
  | some outcome => simp only [record, observe_observe]

theorem Sound.record {t : PaymentTracker} (h : t.Sound) (told : Option PaymentOutcome) :
    (t.record told).Sound := by
  cases told with
  | none => exact h
  | some outcome => exact h.observe outcome

theorem record_waiters {t : PaymentTracker} (h : t.Sound) (told : Option PaymentOutcome) :
    (t.record told).waiters = t.waiters.map fun w => w.settleAll told.toList := by
  cases told with
  | none => exact (List.map_id _).symm
  | some outcome => exact observe_waiters h outcome

end PaymentTracker
end LightningLottery
