/-
  What the data of a frame comes to.

  * `Registry.Dispatches`: a frame calls those who listen to its event, with the value of its data.
  * `Listener.Hears`, `Listener.HearAll`: what one listener makes of a payload, and several in order.
  * `Registry.dispatches_calls`, `Listener.hearAll_receiveAll`: `EventStream.calls` and
    `Listener.receiveAll` do just that.
-/
import LightningLottery.Proofs.Wire.Event
import LightningLottery.Stream.Listener

namespace LightningLottery

/-! ## Frames -/

section Frames

variable {L : Type}

/-- The calls of a frame: one for each subscription to its event, in the order of the subscriptions,
    with the value of its data. Data that has no value calls nobody. -/
inductive Registry.Dispatches (r : Registry L) (frame : Frame) : List (Call L) → Prop
  | called {payload : Json} (h : Json.parse (utf8 frame.data) = .ok payload) :
    Dispatches r frame ((r.subscriptions.filter fun s => s.event = frame.event).map fun s =>
      (s.listener, payload))
  | malformed {fault : Json.Fault} (h : Json.parse (utf8 frame.data) = .error fault) :
    Dispatches r frame []

theorem Registry.dispatches_calls (r : Registry L) (frame : Frame) :
    r.Dispatches frame (EventStream.calls r frame) := by
  cases h : Json.parse (utf8 frame.data) with
  | ok payload =>
    have hcalls : EventStream.calls r frame =
        (r.subscriptions.filter fun s => s.event = frame.event).map fun s =>
          (s.listener, payload) := by
      rw [EventStream.calls, EventStream.payload?, h]
      show ((r.subscriptions.filter fun s => s.event == frame.event).map _).map _ = _
      rw [List.map_map]
      rfl
    rw [hcalls]
    exact .called h
  | error fault =>
    have hcalls : EventStream.calls r frame = [] := by
      rw [EventStream.calls, EventStream.payload?, h]
      rfl
    rw [hcalls]
    exact .malformed h

end Frames

/-! ## Payloads -/

theorem toOption_map_eq_some_iff {ε α β : Type} {x : Except ε α} {f : α → β} {b : β} :
    x.toOption.map f = some b ↔ ∃ a, x = .ok a ∧ f a = b := by
  cases x with
  | error e => exact ⟨nofun, nofun⟩
  | ok a => simp [Except.toOption]

/-- A payload that is read again is one that fits the event. -/
theorem Listener.reread?_eq_some_iff {event : EventType} {payload value : Json} :
    reread? event payload = some value ↔ ∃ told, EventType.Reads payload event value told := by
  unfold reread?
  constructor
  · intro h
    split at h <;> obtain ⟨o, ho, rfl⟩ := toOption_map_eq_some_iff.1 h
    · exact ⟨_, .info ho⟩
    · exact ⟨_, .invoices ho⟩
    · exact ⟨_, .payments ho⟩
  · rintro ⟨told, _ | _ | _⟩ <;> exact toOption_map_eq_some_iff.2 ⟨_, ‹_›, rfl⟩

/-- A payload tells how a payment ended if and only if it is read as an event that does. -/
theorem PaymentChannel.outcome?_eq_some_iff {channel : PaymentChannel} {payload : Json}
    {outcome : PaymentOutcome} :
    channel.outcome? payload = some outcome ↔
      ∃ value, EventType.Reads payload channel.event value (some outcome) := by
  cases channel with
  | invoices =>
    refine toOption_map_eq_some_iff.trans ⟨?_, ?_⟩
    · rintro ⟨o, ho, rfl⟩
      exact ⟨_, .invoices ho⟩
    · rintro ⟨_, ho⟩
      cases ho with
      | invoices ho => exact ⟨_, ho, rfl⟩
  | payments =>
    refine toOption_map_eq_some_iff.trans ⟨?_, ?_⟩
    · rintro ⟨o, ho, rfl⟩
      exact ⟨_, .payments ho⟩
    · rintro ⟨_, ho⟩
      cases ho with
      | payments ho => exact ⟨_, ho, rfl⟩

/-! ## Listeners -/

namespace Listener

variable {Tag : Type}

/-- What a listener makes of a payload: the payments under way after it, and what it hands on. -/
inductive Hears (trackers : PaymentTrackers) (payload : Json) :
    Listener Tag → PaymentTrackers → List (Tag × Json) → Prop
  | raw (tag : Tag) : Hears trackers payload (.raw tag) trackers [(tag, payload)]
  | typed {event : EventType} {value : Json} {told : Option PaymentOutcome} (tag : Tag)
    (h : event.Reads payload value told) :
    Hears trackers payload (.typed event tag) trackers [(tag, value)]
  | misfit {event : EventType} (tag : Tag) (h : ∀ value told, ¬ event.Reads payload value told) :
    Hears trackers payload (.typed event tag) trackers []
  | settles {channel : PaymentChannel} {value : Json} {outcome : PaymentOutcome}
    (h : channel.event.Reads payload value (some outcome)) :
    Hears trackers payload (.tracker channel)
      (trackers.update channel fun t => (t.observe outcome).1) []
  | passedBy {channel : PaymentChannel}
    (h : ∀ value outcome, ¬ channel.event.Reads payload value (some outcome)) :
    Hears trackers payload (.tracker channel) trackers []

theorem hears_receive (trackers : PaymentTrackers) (listener : Listener Tag) (payload : Json) :
    Hears trackers payload listener (listener.receive trackers payload).1
      (listener.receive trackers payload).2.toList := by
  cases listener with
  | raw tag => exact .raw tag
  | typed event tag =>
    rw [receive]
    cases h : reread? event payload with
    | some value =>
      obtain ⟨told, hread⟩ := reread?_eq_some_iff.1 h
      exact .typed tag hread
    | none =>
      refine .misfit tag fun value told hread => ?_
      rw [reread?_eq_some_iff.2 ⟨told, hread⟩] at h
      cases h
  | tracker channel =>
    rw [receive]
    split
    · next outcome h =>
      obtain ⟨value, hread⟩ := PaymentChannel.outcome?_eq_some_iff.1 h
      exact .settles hread
    · next h =>
      refine .passedBy fun value outcome hread => ?_
      rw [PaymentChannel.outcome?_eq_some_iff.2 ⟨value, hread⟩] at h
      cases h

/-- What calls lead to, each heard by its own listener, one after the other. -/
inductive HearAll : PaymentTrackers → List (Call (Listener Tag)) → PaymentTrackers →
    List (Tag × Json) → Prop
  | nil (trackers : PaymentTrackers) : HearAll trackers [] trackers []
  | cons {trackers next last : PaymentTrackers} {listener : Listener Tag} {payload : Json}
    {calls : List (Call (Listener Tag))} {given more : List (Tag × Json)}
    (hfirst : Hears trackers payload listener next given) (hrest : HearAll next calls last more) :
    HearAll trackers ((listener, payload) :: calls) last (given ++ more)

theorem hearAll_receiveAll (trackers : PaymentTrackers) (calls : List (Call (Listener Tag))) :
    HearAll trackers calls (receiveAll trackers calls).1 (receiveAll trackers calls).2 := by
  induction calls generalizing trackers with
  | nil => exact .nil trackers
  | cons call calls ih =>
    obtain ⟨listener, payload⟩ := call
    exact .cons (hears_receive trackers listener payload) (ih _)

end Listener
end LightningLottery
