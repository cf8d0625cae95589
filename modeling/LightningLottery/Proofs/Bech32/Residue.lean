/-
  The checksum of Bech32 as a linear recurrence.

  A step shifts five bits out of the residue, puts back in what they stand for, and works in one
  word. Nothing is lost by it: the bits shifted out are told by the lowest five of what is put back.

  * `step_xor`: a step is linear for exclusive or.
  * `run_injective`: residues that differ stay different, whatever words are worked in.
  * `run_packed`: up to six words are worked in side by side.
  * `run_words_injective`: so different ones, if they are as many, leave different residues.
  * `isSound_append_iff`: six words fit a data part just when they are its checksum.
-/
import LightningLottery.Bech32.Checksum
import Mathlib.Data.List.Basic
import Mathlib.Data.List.GetD
import Mathlib.Data.List.Induction
import Mathlib.Tactic.IntervalCases

namespace LightningLottery.Bech32

/-! ## Steps -/

theorem picked_xor (a b : Bool) (r : Residue) : picked (a ^^ b) r = picked a r ^^^ picked b r := by
  cases a <;> cases b <;> simp [picked]

theorem feedback_xor (r s : Residue) : feedback (r ^^^ s) = feedback r ^^^ feedback s := by
  simp only [feedback, BitVec.getLsbD_xor, picked_xor]
  ac_rfl

/-- **A step is linear.** -/
theorem step_xor (r s : Residue) (v w : Word) : step (r ^^^ s) (v ^^^ w) = step r v ^^^ step s w := by
  simp only [step, feedback_xor, BitVec.shiftLeft_xor_distrib, BitVec.setWidth_xor]
  ac_rfl

/-- Feedback depends on the five bits shifted out alone. -/
theorem feedback_eq (r : Residue) {a b c d e : Bool} (ha : r.getLsbD 25 = a)
    (hb : r.getLsbD 26 = b) (hc : r.getLsbD 27 = c) (hd : r.getLsbD 28 = d)
    (he : r.getLsbD 29 = e) :
    feedback r = picked a 0x3b6a57b2 ^^^ picked b 0x26508e6d ^^^ picked c 0x1ea119fa ^^^
      picked d 0x3d4233dd ^^^ picked e 0x2a1462b3 := by
  rw [feedback, ha, hb, hc, hd, he]

/-- The lowest five bits of the feedback determine the bits shifted out. -/
theorem picked_eq_false : ∀ a b c d e : Bool,
    (∀ i < 5, (picked a 0x3b6a57b2 ^^^ picked b 0x26508e6d ^^^ picked c 0x1ea119fa ^^^
      picked d 0x3d4233dd ^^^ picked e 0x2a1462b3).getLsbD i = false) →
    a = false ∧ b = false ∧ c = false ∧ d = false ∧ e = false := by
  decide

theorem eq_zero_of_step {r : Residue} (h : step r 0#5 = 0#30) : r = 0#30 := by
  have hbit (i : Nat) : (r <<< 5).getLsbD i = (feedback r).getLsbD i := by
    have := congrArg (BitVec.getLsbD · i) h
    simpa [step] using this
  have hlow (i : Nat) (hi : i < 5) : (feedback r).getLsbD i = false := by
    rw [← hbit, BitVec.getLsbD_shiftLeft, decide_eq_true hi]
    simp
  obtain ⟨h25, h26, h27, h28, h29⟩ := picked_eq_false _ _ _ _ _ hlow
  have hnone : feedback r = 0#30 := (feedback_eq r h25 h26 h27 h28 h29).trans (by decide)
  refine BitVec.eq_of_getLsbD_eq fun i hi => ?_
  rw [BitVec.getLsbD_zero]
  rcases Nat.lt_or_ge i 25 with hlow | hhigh
  · have := hbit (i + 5)
    rw [hnone, BitVec.getLsbD_shiftLeft] at this
    simpa [show i + 5 < 30 by omega] using this
  · interval_cases i <;> assumption

theorem step_injective {r s : Residue} {w : Word} (h : step r w = step s w) : r = s := by
  have hzero : step (r ^^^ s) 0#5 = 0#30 := by
    rw [← BitVec.xor_self (x := w), step_xor, h, BitVec.xor_self]
  exact BitVec.xor_eq_zero_iff.1 (eq_zero_of_step hzero)

/-! ## Runs -/

theorem run_append (r : Residue) (vs ws : List Word) : run r (vs ++ ws) = run (run r vs) ws :=
  List.foldl_append

/-- **`run` is injective in the residue.** -/
theorem run_injective {r s : Residue} {ws : List Word} (h : run r ws = run s ws) : r = s := by
  induction ws generalizing r s with
  | nil => exact h
  | cons w ws ih => exact step_injective (ih h)

/-- Words side by side, the last one lowest. -/
def packed (ws : List Word) : Residue := ws.foldl (fun r w => (r <<< 5) ^^^ w.setWidth 30) 0#30

theorem packed_concat (ws : List Word) (w : Word) :
    packed (ws ++ [w]) = (packed ws <<< 5) ^^^ w.setWidth 30 := by
  rw [packed, List.foldl_concat, packed]

theorem getLsbD_packed (ws : List Word) {i : Nat} (hi : i < 30) :
    (packed ws).getLsbD i = (ws.reverse.getD (i / 5) 0#5).getLsbD (i % 5) := by
  induction ws using List.reverseRecOn generalizing i with
  | nil => simp [packed]
  | append_singleton ws w ih =>
    rw [packed_concat, BitVec.getLsbD_xor, BitVec.getLsbD_shiftLeft, BitVec.getLsbD_setWidth,
      List.reverse_concat]
    rcases Nat.lt_or_ge i 5 with hlow | hhigh
    · simp [hlow, hi, Nat.div_eq_of_lt hlow, Nat.mod_eq_of_lt hlow]
    · obtain ⟨j, rfl⟩ := Nat.exists_eq_add_of_le' hhigh
      simp [hi, ih (show j < 30 by omega), Nat.add_div_right j (show 0 < 5 by decide)]

theorem feedback_packed {ws : List Word} (h : ws.length ≤ 5) : feedback (packed ws) = 0#30 := by
  have hbit (i : Nat) (hge : 25 ≤ i) (hlt : i < 30) : (packed ws).getLsbD i = false := by
    rw [getLsbD_packed ws hlt, List.getD_eq_default _ _ (by rw [List.length_reverse]; omega)]
    exact BitVec.getLsbD_zero
  exact (feedback_eq _ (hbit 25 (by decide) (by decide)) (hbit 26 (by decide) (by decide))
    (hbit 27 (by decide) (by decide)) (hbit 28 (by decide) (by decide))
    (hbit 29 (by decide) (by decide))).trans (by decide)

/-- **Up to six words enter the residue side by side.** -/
theorem run_packed (r : Residue) {ws : List Word} (h : ws.length ≤ checksumLength) :
    run r ws = run r (List.replicate ws.length 0) ^^^ packed ws := by
  induction ws using List.reverseRecOn with
  | nil => simp [packed]
  | append_singleton ws w ih =>
    rw [List.length_append, List.length_singleton, checksumLength] at h
    have hstep : step (packed ws) w = packed (ws ++ [w]) := by
      rw [packed_concat, step, feedback_packed (by omega), BitVec.xor_zero]
    calc run r (ws ++ [w])
        = step (run r (List.replicate ws.length 0) ^^^ packed ws) (0#5 ^^^ w) := by
          rw [run_append, ih (by rw [checksumLength]; omega), BitVec.zero_xor]
          rfl
      _ = run r (List.replicate (ws ++ [w]).length 0) ^^^ packed (ws ++ [w]) := by
          rw [step_xor, hstep, List.length_append, List.length_singleton, List.replicate_succ',
            run_append]
          rfl

theorem packed_injective {vs ws : List Word} (hlength : vs.length = ws.length)
    (hfew : ws.length ≤ checksumLength) (h : packed vs = packed ws) : vs = ws := by
  rw [checksumLength] at hfew
  refine List.reverse_injective (List.ext_getElem (by simpa using hlength) fun j hv hw => ?_)
  rw [List.length_reverse] at hv hw
  refine BitVec.eq_of_getLsbD_eq fun k hk => ?_
  have hbit := congrArg (·.getLsbD (5 * j + k)) h
  simp only [getLsbD_packed _ (show 5 * j + k < 30 by omega)] at hbit
  rwa [show (5 * j + k) / 5 = j by omega, show (5 * j + k) % 5 = k by omega,
    List.getD_eq_getElem _ _ (by simpa using hv), List.getD_eq_getElem _ _ (by simpa using hw)]
    at hbit

/-- **Up to six words are determined by their number and the residue.** -/
theorem run_words_injective {r : Residue} {vs ws : List Word} (hlength : vs.length = ws.length)
    (hfew : ws.length ≤ checksumLength) (h : run r vs = run r ws) : vs = ws := by
  rw [run_packed r (hlength.trans_le hfew), run_packed r hfew, hlength] at h
  exact packed_injective hlength hfew (BitVec.xor_right_inj _ |>.1 h)

/-! ## Checksums -/

theorem packed_checksum (hrp : List Char) (ws : List Word) :
    packed (checksum hrp ws) =
      polymod (expand hrp ++ ws ++ List.replicate checksumLength 0) ^^^ soundResidue := by
  unfold checksum
  generalize polymod (expand hrp ++ ws ++ List.replicate checksumLength 0) ^^^ soundResidue = r
  refine BitVec.eq_of_getLsbD_eq fun i hi => ?_
  rw [getLsbD_packed _ hi]
  have hk : i % 5 < 5 := Nat.mod_lt _ (by decide)
  have hi5 := Nat.div_add_mod i 5
  have hj : i / 5 < 6 := by omega
  generalize i / 5 = j at hi5 hj
  generalize i % 5 = k at hi5 hk
  subst hi5
  interval_cases j <;> simp [hk]

theorem length_checksum (hrp : List Char) (ws : List Word) :
    (checksum hrp ws).length = checksumLength := rfl

/-- **Six words make a data part sound if and only if they are its checksum.** -/
theorem isSound_append_iff {hrp : List Char} {ws cs : List Word} (h : cs.length = checksumLength) :
    isSound hrp (ws ++ cs) = true ↔ cs = checksum hrp ws := by
  have hrun : polymod (expand hrp ++ (ws ++ cs)) =
      polymod (expand hrp ++ ws ++ List.replicate checksumLength 0) ^^^ packed cs := by
    rw [← List.append_assoc, polymod, run_append, run_packed _ h.le, h, ← run_append]
    rfl
  rw [isSound, beq_iff_eq, hrun]
  constructor
  · intro hsound
    refine packed_injective (h.trans (length_checksum hrp ws).symm) (length_checksum hrp ws).le ?_
    rw [packed_checksum, ← hsound, ← BitVec.xor_assoc, BitVec.xor_self, BitVec.zero_xor]
  · rintro rfl
    rw [packed_checksum, ← BitVec.xor_assoc, BitVec.xor_self, BitVec.zero_xor]

theorem isSound_checksum (hrp : List Char) (ws : List Word) :
    isSound hrp (ws ++ checksum hrp ws) = true :=
  (isSound_append_iff (length_checksum hrp ws)).2 rfl

/-- **Replacing words within a window of six makes a sound data part unsound.** -/
theorem not_isSound_of_window {hrp : List Char} {before old new after : List Word}
    (hlength : new.length = old.length) (hfew : old.length ≤ checksumLength) (hne : new ≠ old)
    (h : isSound hrp (before ++ old ++ after) = true) :
    isSound hrp (before ++ new ++ after) = false := by
  rw [isSound, beq_iff_eq] at h
  rw [isSound, beq_eq_false_iff_ne]
  intro hnew
  have hrun := hnew.trans h.symm
  simp only [polymod, ← List.append_assoc, run_append] at hrun
  exact hne (run_words_injective hlength hfew (run_injective hrun))

end LightningLottery.Bech32
