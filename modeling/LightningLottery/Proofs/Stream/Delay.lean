/-
  What the calls on a backoff answer, to the nanosecond.

  * `Duration.parts`, `Duration.double_eq_ofParts`: a span is told by its seconds and nanoseconds,
    and doubling carries from these to those.
  * `BackoffCall`, `Backoff.answers`: the calls, and what they answer one after the other.
  * `Backoff.getElem?_answers`: an answer depends on the calls before it alone.
  * `Backoff.answers_closed_form`: the delays that are answered, in numbers without a limit.
-/
import LightningLottery.Proofs.Stream.Backoff
import LightningLottery.Word64

namespace LightningLottery

namespace Duration

theorem parts (d : Duration) : d.seconds < wordLimit ∧ d.subsecond < perSecond ∧
    d.seconds * perSecond + d.subsecond = d.nanoseconds := by
  have hlimit := d.lt_limit
  unfold seconds subsecond perSecond wordLimit
  omega

theorem nanoseconds_ofParts {seconds nanoseconds : Nat} (hs : seconds < wordLimit)
    (hn : nanoseconds < perSecond) :
    (ofParts seconds nanoseconds).nanoseconds = seconds * perSecond + nanoseconds := by
  refine nanoseconds_ofNanoseconds ?_
  unfold wordLimit at hs
  unfold perSecond at *
  unfold limit
  omega

/-- Doubling carries whole seconds out of the nanoseconds, and saturates at the greatest span. -/
theorem double_eq_ofParts (d : Duration) :
    d.double =
      if d.seconds * 2 + d.subsecond * 2 / perSecond < wordLimit then
        ofParts (d.seconds * 2 + d.subsecond * 2 / perSecond) (d.subsecond * 2 % perSecond)
      else ofParts (wordLimit - 1) (perSecond - 1) := by
  obtain ⟨-, -, hparts⟩ := d.parts
  have hlimit : limit = wordLimit * perSecond := rfl
  have hrest : d.subsecond * 2 % perSecond < perSecond := Nat.mod_lt _ (by decide)
  have hcarry := Nat.div_add_mod (d.subsecond * 2) perSecond
  refine eq_of_nanoseconds ?_
  rw [nanoseconds_double, hlimit, ← hparts]
  split
  · next hfits =>
    rw [nanoseconds_ofParts hfits hrest]
    unfold perSecond wordLimit at *
    omega
  · next hlarge =>
    rw [nanoseconds_ofParts (by decide) (by decide)]
    unfold perSecond wordLimit at *
    omega

end Duration

/-- A call on a backoff: at a failure, at a connection that opens, or to see the delay that is due. -/
inductive BackoffCall where
  | onFailure
  | reset
  | current
  deriving DecidableEq

/-- What a call does to the backoff. -/
def BackoffCall.move? : BackoffCall → Option BackoffMove
  | .onFailure => some .failed
  | .reset => some .opened
  | .current => none

/-- The calls at a failure since the last one that reset the backoff, or since the start. -/
def failuresSinceReset (calls : List BackoffCall) : Nat :=
  failuresInRow (calls.filterMap BackoffCall.move?)

theorem failuresInRow_append {moves more : List BackoffMove} (h : .opened ∉ more) :
    failuresInRow (moves ++ more) = failuresInRow moves + more.length := by
  have hall : ∀ move ∈ more.reverse, decide (move ≠ .opened) = true := by
    intro move hmem
    rw [decide_eq_true_iff]
    rintro rfl
    exact h (List.mem_reverse.1 hmem)
  rw [failuresInRow, List.reverse_append, List.takeWhile_append_of_pos hall, List.length_append,
    List.length_reverse, Nat.add_comm, failuresInRow]

theorem failuresSinceReset_le {before more : List BackoffCall} (h : .reset ∉ more) :
    failuresSinceReset before ≤ failuresSinceReset (before ++ more) := by
  have hmoves : .opened ∉ more.filterMap BackoffCall.move? := by
    rw [List.mem_filterMap]
    rintro ⟨call, hmem, hmove⟩
    cases call with
    | reset => exact h hmem
    | onFailure => cases hmove
    | current => cases hmove
  rw [failuresSinceReset, failuresSinceReset, List.filterMap_append, failuresInRow_append hmoves]
  exact Nat.le_add_right _ _

namespace Backoff

/-- What a call answers, and the backoff after it. -/
def serve (b : Backoff) : BackoffCall → Option Duration × Backoff
  | .onFailure => (some b.onFailure.1, b.onFailure.2)
  | .reset => (none, b.reset)
  | .current => (some b.current, b)

/-- What calls answer, one after the other. -/
def answers (b : Backoff) : List BackoffCall → List (Option Duration)
  | [] => []
  | call :: calls => (b.serve call).1 :: answers (b.serve call).2 calls

/-- The backoff after calls. -/
def after (b : Backoff) (calls : List BackoffCall) : Backoff :=
  b.run (calls.filterMap BackoffCall.move?)

theorem after_cons (b : Backoff) (call : BackoffCall) (calls : List BackoffCall) :
    b.after (call :: calls) = (b.serve call).2.after calls := by
  cases call <;> rfl

theorem getElem?_answers (b : Backoff) (calls : List BackoffCall) (i : Nat) :
    (b.answers calls)[i]? = calls[i]?.map fun call => ((b.after (calls.take i)).serve call).1 := by
  induction calls generalizing b i with
  | nil => rfl
  | cons call calls ih =>
    cases i with
    | zero => rfl
    | succ i => rw [answers, List.getElem?_cons_succ, ih, List.take_succ_cons, after_cons,
        List.getElem?_cons_succ]

theorem after_calls (floor ceiling : Duration) (calls : List BackoffCall) :
    ((between floor ceiling).after calls).After floor ceiling (failuresSinceReset calls) :=
  run_after floor ceiling _

theorem delay_mono (floor ceiling : Duration) {m n : Nat} (h : m ≤ n) :
    (delay floor ceiling m).nanoseconds ≤ (delay floor ceiling n).nanoseconds := by
  rw [nanoseconds_delay, nanoseconds_delay]
  exact min_le_min_left _ (Nat.mul_le_mul_left _ (Nat.pow_le_pow_right Nat.zero_lt_two h))

variable (floor ceiling : Duration) (calls : List BackoffCall)

/-- The answers, one by one: a reset answers nothing, the other calls the delay that is due. -/
theorem getElem?_answers_between (i : Nat) :
    ((between floor ceiling).answers calls)[i]? = calls[i]?.map fun call =>
      if call = .reset then none
      else some (delay floor ceiling (failuresSinceReset (calls.take i))) := by
  have hafter := after_calls floor ceiling (calls.take i)
  rw [getElem?_answers]
  congr 1
  funext call
  cases call with
  | onFailure => exact congrArg some hafter.onFailure.1
  | reset => rfl
  | current => exact congrArg some hafter.current_eq

theorem eq_delay_of_answer {i : Nat} {d : Duration}
    (h : ((between floor ceiling).answers calls)[i]? = some (some d)) :
    d = delay floor ceiling (failuresSinceReset (calls.take i)) := by
  rw [getElem?_answers_between, Option.map_eq_some_iff] at h
  obtain ⟨call, -, hcall⟩ := h
  split at hcall
  · cases hcall
  · exact (Option.some.inj hcall).symm

/-- **The delay answered is `floor * 2 ^ n`, up to the ceiling**, or the floor if that is greater,
    `n` being the failures since the last reset, for every sequence of calls and to the nanosecond.
    Delays are within these bounds, do not fall without a reset, and saturation never shows. -/
theorem answers_closed_form :
    (∀ i, (((between floor ceiling).answers calls).map (Option.map Duration.nanoseconds))[i]? =
      calls[i]?.map fun call => if call = .reset then none else
        some (min (max ceiling.nanoseconds floor.nanoseconds)
          (floor.nanoseconds * 2 ^ failuresSinceReset (calls.take i)))) ∧
    (∀ d, some d ∈ (between floor ceiling).answers calls →
      floor.nanoseconds ≤ d.nanoseconds ∧
        d.nanoseconds ≤ max ceiling.nanoseconds floor.nanoseconds) ∧
    (∀ i j d e, i ≤ j → .reset ∉ (calls.take j).drop i →
      ((between floor ceiling).answers calls)[i]? = some (some d) →
      ((between floor ceiling).answers calls)[j]? = some (some e) →
      d.nanoseconds ≤ e.nanoseconds) ∧
    ((between floor ceiling).after calls).onFailure.2.current.nanoseconds =
      min (((between floor ceiling).after calls).current.nanoseconds * 2)
        (max ceiling.nanoseconds floor.nanoseconds) := by
  refine ⟨fun i => ?_, fun d hd => ?_, fun i j d e hij hreset hd he => ?_, ?_⟩
  · rw [List.getElem?_map, getElem?_answers_between, Option.map_map]
    congr 1
    funext call
    rw [← nanoseconds_delay, Function.comp_apply]
    split <;> rfl
  · obtain ⟨i, hi⟩ := List.mem_iff_getElem?.1 hd
    rw [eq_delay_of_answer floor ceiling calls hi]
    exact ⟨floor_le_delay .., delay_le_max ..⟩
  · have hcut : calls.take j = calls.take i ++ (calls.take j).drop i := by
      have hsplit := List.take_append_drop i (calls.take j)
      rwa [List.take_take, Nat.min_eq_left hij, eq_comm] at hsplit
    rw [eq_delay_of_answer floor ceiling calls hd, eq_delay_of_answer floor ceiling calls he, hcut]
    exact delay_mono floor ceiling (failuresSinceReset_le hreset)
  · rw [nanoseconds_current_onFailure, (after_calls floor ceiling calls).ceiling_eq,
      Duration.nanoseconds_longer]

/-- A floor of more than half the greatest span: the ceiling is the second delay. -/
theorem answers_closed_form_limit :
    (between (.ofParts 9223372036854775809 0) (.ofParts 18446744073709551615 5)).answers
        [.onFailure, .current] =
      [some (.ofParts 9223372036854775809 0), some (.ofParts 18446744073709551615 5)] ∧
      (Duration.ofParts 9223372036854775809 0).nanoseconds ≤
        (Duration.ofParts 18446744073709551615 5).nanoseconds := by
  have hanswers : (between (.ofParts 9223372036854775809 0)
      (.ofParts 18446744073709551615 5)).answers [.onFailure, .current] =
        [some (.ofParts 9223372036854775809 0), some (.ofParts 18446744073709551615 5)] := by decide
  obtain ⟨-, -, hmono, -⟩ := answers_closed_form (.ofParts 9223372036854775809 0)
    (.ofParts 18446744073709551615 5) [.onFailure, .current]
  rw [hanswers] at hmono
  exact ⟨hanswers, hmono 0 1 _ _ (Nat.zero_le 1) (by decide) rfl rfl⟩

end Backoff

end LightningLottery
