/-
  What the payments of a session hear from its event stream.

  * `Session.heard`: the end of a payment that an arrival tells a channel.
  * `Session.Hears`: the stream is open, and each channel listens to its own event, and to no other.
  * `Session.arrive_trackers`: then an arrival records in a channel just what the channel hears.
  * `Session.Hears.arrive`, `Session.Hears.track`, …: what keeps a session hearing.
-/
import LightningLottery.Proofs.Payment.Waiter
import LightningLottery.Proofs.Stream.Arrival
import LightningLottery.Proofs.Stream.Listening
import LightningLottery.Session.Basic

namespace LightningLottery

/-! ## Trackers -/

namespace PaymentTrackers

theorem get_update (ts : PaymentTrackers) (channel channel' : PaymentChannel)
    (change : PaymentTracker → PaymentTracker) :
    (ts.update channel change).get channel' =
      if channel = channel' then change (ts.get channel') else ts.get channel' := by
  cases channel <;> cases channel' <;> rfl

end PaymentTrackers

namespace Listener

variable {Tag : Type}

theorem receive_tracker (ts : PaymentTrackers) (channel channel' : PaymentChannel)
    (payload : Json) :
    ((tracker channel' : Listener Tag).receive ts payload).1.get channel =
      if channel' = channel then (ts.get channel).record (channel.outcome? payload)
      else ts.get channel := by
  simp only [receive]
  split
  · next outcome ho =>
    rw [PaymentTrackers.get_update]
    split
    · next hc => subst hc; rw [ho]; rfl
    · rfl
  · next ho =>
    split
    · next hc => subst hc; rw [ho]; rfl
    · rfl

theorem receive_other (ts : PaymentTrackers) {l : Listener Tag} {channel : PaymentChannel}
    (h : l ≠ tracker channel) (payload : Json) :
    (l.receive ts payload).1.get channel = ts.get channel := by
  cases l with
  | raw tag => rfl
  | typed event tag => rfl
  | tracker channel' => rw [receive_tracker, if_neg fun he => h (congrArg tracker he)]

theorem receiveAll_cons (ts : PaymentTrackers) (l : Listener Tag) (payload : Json)
    (calls : List (Call (Listener Tag))) :
    (receiveAll ts ((l, payload) :: calls)).1 =
      (receiveAll (l.receive ts payload).1 calls).1 := rfl

theorem receiveAll_of_notMem (ts : PaymentTrackers) {ls : List (Listener Tag)}
    {channel : PaymentChannel} (h : tracker channel ∉ ls) (payload : Json) :
    (receiveAll ts (ls.map fun l => (l, payload))).1.get channel = ts.get channel := by
  induction ls generalizing ts with
  | nil => rfl
  | cons l ls ih =>
    rw [List.mem_cons, not_or] at h
    rw [List.map_cons, receiveAll_cons, ih _ h.2, receive_other ts (Ne.symm h.1)]

/-- If the listener of a channel is among those called, once or twice, the channel records the
    payload. -/
theorem receiveAll_of_mem (ts : PaymentTrackers) {ls : List (Listener Tag)}
    {channel : PaymentChannel} (h : tracker channel ∈ ls) (payload : Json) :
    (receiveAll ts (ls.map fun l => (l, payload))).1.get channel =
      (ts.get channel).record (channel.outcome? payload) := by
  induction ls generalizing ts with
  | nil => cases h
  | cons l ls ih =>
    by_cases hl : l = tracker channel
    · subst hl
      have hone : ((tracker channel : Listener Tag).receive ts payload).1.get channel =
          (ts.get channel).record (channel.outcome? payload) := by
        rw [receive_tracker, if_pos rfl]
      rw [List.map_cons, receiveAll_cons]
      by_cases hls : tracker channel ∈ ls
      · rw [ih _ hls, hone, PaymentTracker.record_record]
      · rw [receiveAll_of_notMem _ hls, hone]
    · have hls : tracker channel ∈ ls := (List.mem_cons.1 h).resolve_left (Ne.symm hl)
      rw [List.map_cons, receiveAll_cons, ih _ hls, receive_other ts hl]

end Listener

/-! ## Sessions -/

namespace Session

variable {Tag : Type}

/-- The end of a payment that an arrival tells a channel: a frame of the event of the channel, read
    from the open stream, with a payload that fits. -/
def heard (s : Session Tag) (channel : PaymentChannel) : Arrival → Option PaymentOutcome
  | .frame frame =>
    if s.events.isLive && frame.event == channel.event.name then
      (EventStream.payload? frame).bind channel.outcome?
    else none
  | _ => none

/-- What a session hears depends on whether its stream is read, and not on who listens. -/
theorem heard_congr {s t : Session Tag} (h : s.events.isLive = t.events.isLive)
    (channel : PaymentChannel) (arrival : Arrival) :
    s.heard channel arrival = t.heard channel arrival := by
  cases arrival with
  | frame frame => simp only [heard, h]
  | refused | opened | dropped | delayOver => rfl

/-- The stream is not told to end, each channel listens to its own event and to no other, and the
    payments that anyone waits for are under way. -/
structure Hears (s : Session Tag) : Prop where
  live : s.events.cancelled = false
  listens : ∀ channel event, Listener.tracker channel ∈ s.events.registry.listeners event ↔
    event = channel.event.name
  sound : ∀ channel, (s.trackers.get channel).Sound

/-- Whether a subscription belongs to the payments of the session. -/
def isTrackers (sub : Subscription (Listener Tag)) : Bool :=
  match sub.listener with
  | .tracker _ => true
  | _ => false

/-- The owner listens to an event. -/
def subscribe (s : Session Tag) (event : String) (kind : Option EventType) (tag : Tag) :
    Session Tag :=
  let listener := match kind with
    | none => .raw tag
    | some kind => .typed kind tag
  { s with events := (s.events.subscribe event listener).1 }

/-- The owner ends a subscription, if it is one of its own. -/
def unsubscribe (s : Session Tag) (id : Nat) : Session Tag :=
  if s.events.registry.subscriptions.any fun sub => isTrackers sub && sub.id == id then s
  else { s with events := (s.events.unsubscribe id).1 }

theorem arrive_trackers_listening {s : Session Tag} {channel : PaymentChannel}
    (h : ∀ event, Listener.tracker channel ∈ s.events.registry.listeners event ↔
      event = channel.event.name) (arrival : Arrival) :
    (s.arrive arrival).1.trackers.get channel =
      (s.trackers.get channel).record (s.heard channel arrival) := by
  have harrive : (s.arrive arrival).1.trackers =
      (Listener.receiveAll s.trackers (s.events.arrive arrival).2).1 := rfl
  rw [harrive, EventStream.arrive_calls]
  cases arrival with
  | frame frame =>
    simp only [heard]
    by_cases hlive : s.events.isLive
    · rw [if_pos hlive, hlive, Bool.true_and, EventStream.calls]
      by_cases he : frame.event = channel.event.name
      · have hmem := (h frame.event).2 he
        rw [beq_iff_eq.2 he, if_pos rfl]
        cases EventStream.payload? frame with
        | none => rfl
        | some payload => exact Listener.receiveAll_of_mem _ hmem payload
      · have hmem := fun hm => he ((h frame.event).1 hm)
        rw [beq_eq_false_iff_ne.2 he, if_neg Bool.false_ne_true]
        cases EventStream.payload? frame with
        | none => rfl
        | some payload => exact Listener.receiveAll_of_notMem _ hmem payload
    · rw [if_neg hlive, Bool.eq_false_iff.2 hlive, Bool.false_and, if_neg Bool.false_ne_true]
      rfl
  | refused | opened | dropped | delayOver => rfl

/-- A channel that does not listen records nothing, whatever arrives. -/
theorem arrive_trackers_silent {s : Session Tag} {channel : PaymentChannel}
    (h : ∀ event, Listener.tracker channel ∉ s.events.registry.listeners event)
    (arrival : Arrival) :
    (s.arrive arrival).1.trackers.get channel = s.trackers.get channel := by
  have harrive : (s.arrive arrival).1.trackers =
      (Listener.receiveAll s.trackers (s.events.arrive arrival).2).1 := rfl
  rw [harrive, EventStream.arrive_calls]
  cases arrival with
  | frame frame =>
    by_cases hlive : s.events.isLive
    · simp only [if_pos hlive, EventStream.calls]
      cases EventStream.payload? frame with
      | none => rfl
      | some payload => exact Listener.receiveAll_of_notMem _ (h frame.event) payload
    · simp only [if_neg hlive]
      rfl
  | refused | opened | dropped | delayOver => rfl

/-- **What an arrival records** in a channel is just what the channel hears. -/
theorem arrive_trackers {s : Session Tag} (h : s.Hears) (arrival : Arrival)
    (channel : PaymentChannel) :
    (s.arrive arrival).1.trackers.get channel =
      (s.trackers.get channel).record (s.heard channel arrival) :=
  arrive_trackers_listening (h.listens channel) arrival

theorem replaceIdentity_events (s : Session Tag) (identity : Identity) (storage : Storage) :
    (s.replaceIdentity identity storage).1.1.events = s.events ∧
      (s.replaceIdentity identity storage).1.1.trackers = s.trackers := by
  unfold replaceIdentity
  split
  · exact ⟨rfl, rfl⟩
  · split <;> exact ⟨rfl, rfl⟩

theorem track_trackers (s : Session Tag) (channel channel' : PaymentChannel) (id : PaymentId) :
    (s.track channel id).trackers.get channel' =
      if channel = channel' then (s.trackers.get channel').track id
      else s.trackers.get channel' :=
  PaymentTrackers.get_update _ _ _ _

namespace Hears

theorem assemble (config : Config) (identity : Identity) (api : ApiClient) :
    (Session.assemble config identity api : Session Tag).Hears := by
  refine ⟨rfl, fun channel event => ?_, fun channel => ?_⟩
  · have hlisteners : Listener.tracker channel ∈
        (Session.assemble config identity api : Session Tag).events.registry.listeners event ↔ _ :=
      Registry.mem_listeners_subscribe.trans (or_congr_left Registry.mem_listeners_subscribe)
    rw [hlisteners]
    have hnone : Listener.tracker channel ∉
        ((Registry.empty : Registry (Listener Tag)).listeners event) := List.not_mem_nil
    constructor
    · rintro ((hm | ⟨rfl, hl⟩) | ⟨rfl, hl⟩)
      · exact absurd hm hnone
      · cases hl; rfl
      · cases hl; rfl
    · rintro rfl
      cases channel with
      | invoices => exact Or.inl (Or.inr ⟨rfl, rfl⟩)
      | payments => exact Or.inr ⟨rfl, rfl⟩
  · cases channel <;> exact PaymentTracker.sound_empty

theorem arrive {s : Session Tag} (h : s.Hears) (arrival : Arrival) :
    (s.arrive arrival).1.Hears := by
  refine ⟨?_, fun channel event => ?_, fun channel => ?_⟩
  · exact (EventStream.arrive_cancelled s.events arrival).trans h.live
  · rw [← h.listens, ← EventStream.arrive_registry s.events arrival]
    rfl
  · rw [arrive_trackers h]
    exact (h.sound channel).record _

theorem track {s : Session Tag} (h : s.Hears) (channel : PaymentChannel) (id : PaymentId) :
    (s.track channel id).Hears := by
  refine ⟨h.live, h.listens, fun channel' => ?_⟩
  rw [track_trackers]
  split
  · exact (h.sound channel').track id
  · exact h.sound channel'

theorem subscribe {s : Session Tag} (h : s.Hears) (event : String)
    (kind : Option EventType) (tag : Tag) : (s.subscribe event kind tag).Hears := by
  refine ⟨h.live, fun channel event' => ?_, h.sound⟩
  rw [← h.listens]
  refine Registry.mem_listeners_subscribe.trans (or_iff_left ?_)
  rintro ⟨-, hl⟩
  cases kind <;> cases hl

theorem unsubscribe {s : Session Tag} (h : s.Hears) (id : Nat) :
    (s.unsubscribe id).Hears := by
  unfold Session.unsubscribe
  split
  · exact h
  · next hn =>
    refine ⟨h.live, fun channel event => ?_, h.sound⟩
    rw [← h.listens]
    refine Registry.mem_listeners_unsubscribe fun sub hsub hl hid => hn ?_
    rw [List.any_eq_true]
    exact ⟨sub, hsub, by simp [isTrackers, hl, hid]⟩

theorem replaceIdentity {s : Session Tag} (h : s.Hears) (identity : Identity)
    (storage : Storage) : (s.replaceIdentity identity storage).1.1.Hears := by
  obtain ⟨he, ht⟩ := replaceIdentity_events s identity storage
  refine ⟨?_, fun channel event => ?_, fun channel => ?_⟩
  · rw [he]; exact h.live
  · rw [he]; exact h.listens channel event
  · rw [ht]; exact h.sound channel

end Hears
end Session
end LightningLottery
