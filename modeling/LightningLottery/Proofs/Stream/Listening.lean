/-
  Who listens to an event, as subscriptions come and go.

  * `mem_listeners`: the listeners to an event are those of its subscriptions.
  * `mem_listeners_subscribe`, `mem_listeners_subscribeShared`, `mem_listeners_unsubscribe`: a
    subscription adds its own listener, and its end takes away no other.
  * `RegistryMove`: what the owner of a stream can do to its listeners.
  * `Registry.Tidy`: the subscriptions stand in the order in which they were made, each once.
-/
import LightningLottery.Stream.Loop
import Mathlib.Data.List.Nodup

namespace LightningLottery

/-! ## Listeners -/

namespace Registry

variable {L : Type}

theorem mem_listeners {r : Registry L} {event : String} {l : L} :
    l ∈ r.listeners event ↔ ∃ s ∈ r.subscriptions, s.event = event ∧ s.listener = l := by
  simp only [listeners, List.mem_map, List.mem_filter, beq_iff_eq, and_assoc]

theorem mem_listeners_add {r : Registry L} {event event' : String} {l l' : L} {shared : Bool} :
    l' ∈ (r.add event l shared).1.listeners event' ↔
      l' ∈ r.listeners event' ∨ event = event' ∧ l = l' := by
  simp only [mem_listeners, add, List.mem_append, List.mem_singleton, or_and_right, exists_or,
    exists_eq_left]

theorem mem_listeners_subscribe {r : Registry L} {event event' : String} {l l' : L} :
    l' ∈ (r.subscribe event l).1.listeners event' ↔
      l' ∈ r.listeners event' ∨ event = event' ∧ l = l' := mem_listeners_add

theorem mem_listeners_subscribeShared [DecidableEq L] {r : Registry L} {event event' : String}
    {l l' : L} :
    l' ∈ (r.subscribeShared event l).1.listeners event' ↔
      l' ∈ r.listeners event' ∨ event = event' ∧ l = l' := by
  unfold subscribeShared
  split
  · next s hs =>
    -- the listener is there already, so that the right-hand side adds nothing
    have hmem : s ∈ r.subscriptions := List.mem_of_find?_eq_some hs
    have hfits := List.find?_some hs
    simp only [Bool.and_eq_true, beq_iff_eq] at hfits
    refine ⟨Or.inl, ?_⟩
    rintro (h | ⟨rfl, rfl⟩)
    · exact h
    · exact mem_listeners.2 ⟨s, hmem, hfits.1.2, hfits.2⟩
  · exact mem_listeners_add

theorem mem_listeners_unsubscribe {r : Registry L} {id : Nat} {l : L}
    (h : ∀ s ∈ r.subscriptions, s.listener = l → s.id ≠ id) {event : String} :
    l ∈ (r.unsubscribe id).1.listeners event ↔ l ∈ r.listeners event := by
  simp only [mem_listeners, unsubscribe, List.mem_filter, bne_iff_ne, ne_eq]
  constructor
  · rintro ⟨s, ⟨hs, -⟩, he, hl⟩
    exact ⟨s, hs, he, hl⟩
  · rintro ⟨s, hs, he, hl⟩
    exact ⟨s, ⟨hs, h s hs hl⟩, he, hl⟩

end Registry

/-! ## Changes -/

/-- What the owner of a stream can do to its listeners. -/
inductive RegistryMove (L : Type) where
  /-- A listener of its own is added to an event. -/
  | subscribed (event : String) (listener : L)
  /-- A shared listener is added to an event. -/
  | shared (event : String) (listener : L)
  | unsubscribed (id : Nat)
  | cleared

variable {L : Type} [DecidableEq L]

def Registry.change (r : Registry L) : RegistryMove L → Registry L
  | .subscribed event listener => (r.subscribe event listener).1
  | .shared event listener => (r.subscribeShared event listener).1
  | .unsubscribed id => (r.unsubscribe id).1
  | .cleared => r.clear

def EventStream.change (s : EventStream L) : RegistryMove L → EventStream L
  | .subscribed event listener => (s.subscribe event listener).1
  | .shared event listener => (s.subscribeShared event listener).1
  | .unsubscribed id => (s.unsubscribe id).1
  | .cleared => s.clearListeners

/-- A change to the listeners leaves the rest of the stream as it is. -/
theorem EventStream.change_eq (s : EventStream L) (move : RegistryMove L) :
    s.change move = { s with registry := s.registry.change move } := by
  cases move <;> rfl

/-! ## Order -/

namespace Registry

/-- The subscriptions stand in the order in which they were made, each with a number of its own,
    and no shared listener listens to an event twice. -/
structure Tidy (r : Registry L) : Prop where
  ordered : r.subscriptions.Pairwise fun a b => a.id < b.id
  below : ∀ s ∈ r.subscriptions, s.id < r.nextId
  once : r.subscriptions.Pairwise fun a b =>
    a.shared = true → b.shared = true → a.event = b.event → a.listener ≠ b.listener

omit [DecidableEq L] in
theorem tidy_empty : (empty : Registry L).Tidy := ⟨.nil, nofun, .nil⟩

namespace Tidy

variable {r : Registry L}

omit [DecidableEq L] in
theorem add (h : r.Tidy) {event : String} {listener : L} {shared : Bool}
    (hnew : shared = true →
      ∀ s ∈ r.subscriptions, s.shared = true → s.event = event → s.listener ≠ listener) :
    (r.add event listener shared).1.Tidy where
  ordered := by
    refine List.pairwise_append.2 ⟨h.ordered, List.pairwise_singleton _ _, fun a ha b hb => ?_⟩
    rw [List.mem_singleton.1 hb]
    exact h.below a ha
  below s hs := by
    rcases List.mem_append.1 hs with hs | hs
    · exact Nat.lt_succ_of_lt (h.below s hs)
    · rw [List.mem_singleton.1 hs]
      exact Nat.lt_succ_self _
  once := by
    refine List.pairwise_append.2 ⟨h.once, List.pairwise_singleton _ _, fun a ha b hb => ?_⟩
    rw [List.mem_singleton.1 hb]
    exact fun hsa hsb => hnew hsb a ha hsa

omit [DecidableEq L] in
theorem filter (h : r.Tidy) (p : Subscription L → Bool) :
    ({ r with subscriptions := r.subscriptions.filter p } : Registry L).Tidy :=
  ⟨h.ordered.sublist List.filter_sublist, fun s hs => h.below s (List.mem_filter.1 hs).1,
    h.once.sublist List.filter_sublist⟩

omit [DecidableEq L] in
theorem eq_of_id (h : r.Tidy) {s t : Subscription L} (hs : s ∈ r.subscriptions)
    (ht : t ∈ r.subscriptions) (hid : s.id = t.id) : s = t := by
  have hnodup : (r.subscriptions.map (·.id)).Nodup :=
    List.pairwise_map.2 (h.ordered.imp Nat.ne_of_lt)
  exact List.inj_on_of_nodup_map hnodup hs ht hid

/-- **Every change keeps a registry tidy**: a shared listener that is there already is not added. -/
theorem change (h : r.Tidy) (move : RegistryMove L) : (r.change move).Tidy := by
  cases move with
  | subscribed event listener => exact h.add nofun
  | shared event listener =>
    rw [Registry.change, subscribeShared]
    split
    · exact h
    · next hnone =>
      refine h.add fun _ s hs hshared hevent hlistener => ?_
      have hmiss := List.find?_eq_none.1 hnone s hs
      simp [hshared, hevent, hlistener] at hmiss
  | unsubscribed id => exact h.filter _
  | cleared => exact ⟨.nil, nofun, .nil⟩

theorem foldl (h : r.Tidy) (moves : List (RegistryMove L)) :
    (moves.foldl Registry.change r).Tidy := by
  induction moves generalizing r with
  | nil => exact h
  | cons move moves ih => exact ih (h.change move)

end Tidy
end Registry
end LightningLottery
