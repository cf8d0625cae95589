/-
  Who listens to which event.

  * `Registry`: the subscriptions in the order in which they were made; each has its own number.
  * `subscribe`: always makes a new subscription; `subscribeShared` makes none for a listener that
    already shares in the event.
  * `unsubscribe`, `clear`: end one or all of them. A number is never given twice.
  * `listeners`, `count`, `events`: who listens to an event, how many, and to which events anyone.
-/

namespace LightningLottery

/-- A listener to the events of a name. A shared listener may listen to several names, but only
    once to each; any other is known by the number of its subscription alone. -/
structure Subscription (L : Type) where
  id : Nat
  event : String
  listener : L
  shared : Bool
  deriving DecidableEq, Repr

/-- The subscriptions so far, and the number of the next one. -/
structure Registry (L : Type) where
  subscriptions : List (Subscription L)
  /-- It is counted in a word of 64 bits, which is enough for the first 2^64 - 1 subscriptions. -/
  nextId : Nat
  deriving DecidableEq, Repr

namespace Registry

variable {L : Type}

/-- Nobody listens; numbers start at one. -/
def empty : Registry L := ⟨[], 1⟩

/-- The subscription with the next number. -/
def add (r : Registry L) (event : String) (listener : L) (shared : Bool) : Registry L × Nat :=
  (⟨r.subscriptions ++ [⟨r.nextId, event, listener, shared⟩], r.nextId + 1⟩, r.nextId)

/-- Adds a listener of its own to an event. -/
def subscribe (r : Registry L) (event : String) (listener : L) : Registry L × Nat :=
  r.add event listener false

/-- The subscription by which a shared listener listens to an event. -/
def shared? [DecidableEq L] (r : Registry L) (event : String) (listener : L) :
    Option (Subscription L) :=
  r.subscriptions.find? fun s => s.shared && s.event == event && s.listener == listener

/-- Adds a shared listener to an event, unless it is there. -/
def subscribeShared [DecidableEq L] (r : Registry L) (event : String) (listener : L) :
    Registry L × Nat :=
  match r.shared? event listener with
  | some s => (r, s.id)
  | none => r.add event listener true

/-- Whether there is a subscription with this number. -/
def has (r : Registry L) (id : Nat) : Bool := r.subscriptions.any fun s => s.id == id

/-- Ends the subscription with this number; tells whether there was one. -/
def unsubscribe (r : Registry L) (id : Nat) : Registry L × Bool :=
  ({ r with subscriptions := r.subscriptions.filter fun s => s.id != id }, r.has id)

/-- Ends all subscriptions. -/
def clear (r : Registry L) : Registry L := { r with subscriptions := [] }

/-- The listeners to an event, in the order in which they came. -/
def listeners (r : Registry L) (event : String) : List L :=
  (r.subscriptions.filter fun s => s.event == event).map (·.listener)

/-- The number of listeners to an event. -/
def count (r : Registry L) (event : String) : Nat := (r.listeners event).length

/-- The events with a listener, sorted. -/
def events (r : Registry L) : List String :=
  (r.subscriptions.map (·.event)).eraseDups.mergeSort fun a b => !(b < a)

end Registry
end LightningLottery
