/-
  What an arrival at an event stream does.

  * `arrive_open`, `arrive_told`: what becomes of the stream, told to end or not.
  * `arrive_calls`: only a frame that is read calls listeners.
-/
import LightningLottery.Stream.Loop

namespace LightningLottery.EventStream

variable {L : Type}

theorem arrive_open {s : EventStream L} (h : s.cancelled = false) (arrival : Arrival) :
    (s.arrive arrival).1 =
      { s with
        loop := (s.loop.step arrival).1
        state := (s.loop.step arrival).2.foldl StreamState.apply s.state } := by
  have hn : ¬ s.cancelled = true := by rw [h]; exact Bool.false_ne_true
  rw [arrive, if_neg hn]
  cases s.loop.phase <;> cases arrival <;> rfl

theorem arrive_told {s : EventStream L} (h : s.cancelled = true) (arrival : Arrival) :
    s.arrive arrival = (s.stop, []) := if_pos h

theorem arrive_registry (s : EventStream L) (arrival : Arrival) :
    (s.arrive arrival).1.registry = s.registry := by
  rcases hc : s.cancelled with _ | _
  · rw [arrive_open hc]
  · rw [arrive_told hc]; rfl

theorem arrive_cancelled (s : EventStream L) (arrival : Arrival) :
    (s.arrive arrival).1.cancelled = s.cancelled := by
  rcases hc : s.cancelled with _ | _
  · rw [arrive_open hc]; exact hc
  · rw [arrive_told hc]; exact hc

/-- Only a frame that is read calls listeners. -/
theorem arrive_calls (s : EventStream L) (arrival : Arrival) :
    (s.arrive arrival).2 =
      match arrival with
      | .frame frame => if s.isLive then calls s.registry frame else []
      | _ => [] := by
  unfold arrive isLive
  rcases hc : s.cancelled with _ | _
  · cases hp : s.loop.phase <;> cases arrival <;> simp
  · cases arrival <;> simp

end LightningLottery.EventStream
