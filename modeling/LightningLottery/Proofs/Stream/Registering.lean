/-
  What the operations on listeners do to the list of subscriptions.

  * `Registry.under`: the subscriptions to an event, in their order.
  * `Subscription.identity`: what tells two listeners apart.
  * `pairwise_events`, `mem_events`: the events with a listener, each once and in order.
  * `subscribeShared_of_mem`, `subscribeShared_of_absent`: a listener that is there, and one that
    is not.
  * `unsubscribe_of_split`, `unsubscribe_of_absent`: a subscription that ends, and no other.
  * `Registry.numbers`: the numbers that moves hand out. They are one, two, three and so on
    (`Registry.Numbered`).
  * `EventStream.Subscribes`, `EventStream.Unsubscribes`: what a stream does for its owner.
-/
import LightningLottery.Proofs.Stream.Listening
import Mathlib

namespace LightningLottery

/-! ## Lists of names -/

theorem eraseDups_nodup {α : Type} [DecidableEq α] : (l : List α) → l.eraseDups.Nodup
  | [] => .nil
  | a :: l => by
    rw [List.eraseDups_cons, List.nodup_cons]
    refine ⟨fun hmem => ?_, eraseDups_nodup _⟩
    simpa using List.mem_eraseDups.1 hmem
  termination_by l => l.length
  decreasing_by exact Nat.lt_succ_of_le (List.length_filter_le ..)

theorem pairwise_sorted {names : List String} (h : names.Nodup) :
    (names.mergeSort fun a b => !(b < a)).Pairwise (· < ·) := by
  have hle : ∀ a b : String, (!decide (b < a)) = true ↔ a ≤ b := fun a b => by
    rw [Bool.not_eq_true', decide_eq_false_iff_not, not_lt]
  have hsorted : (names.mergeSort fun a b => !(b < a)).Pairwise fun a b => (!(b < a)) = true :=
    List.pairwise_mergeSort
      (fun a b c hab hbc => (hle a c).2 (((hle a b).1 hab).trans ((hle b c).1 hbc)))
      (fun a b => by rw [Bool.or_eq_true, hle, hle]; exact le_total a b) names
  have hnodup : (names.mergeSort fun a b => !(b < a)).Nodup :=
    (List.mergeSort_perm _ _).nodup_iff.2 h
  exact (hsorted.and hnodup).imp fun ⟨hab, hne⟩ => lt_of_le_of_ne ((hle _ _).1 hab) hne

/-! ## The subscriptions to an event -/

variable {L : Type}

/-- What tells listeners apart: a shared one may come again, any other comes only once. -/
def Subscription.identity (s : Subscription L) : L ⊕ Nat :=
  if s.shared then .inl s.listener else .inr s.id

namespace Registry

variable {r : Registry L}

/-- The subscriptions to an event. -/
def under (r : Registry L) (event : String) : List (Subscription L) :=
  r.subscriptions.filter (·.event == event)

theorem mem_under {event : String} {s : Subscription L} :
    s ∈ r.under event ↔ s ∈ r.subscriptions ∧ s.event = event := by
  rw [under, List.mem_filter, beq_iff_eq]

theorem count_eq_length_under (r : Registry L) (event : String) :
    r.count event = (r.under event).length :=
  List.length_map _

theorem under_add (event event' : String) (listener : L) (shared : Bool) :
    (r.add event listener shared).1.under event' =
      r.under event' ++ if event = event' then [⟨r.nextId, event, listener, shared⟩] else [] := by
  simp only [under, add, List.filter_append, List.filter_singleton, Bool.cond_eq_ite, beq_iff_eq]

theorem under_unsubscribe (id : Nat) (event : String) :
    (r.unsubscribe id).1.under event = (r.under event).filter (·.id != id) :=
  List.filter_comm _ _ _

theorem mem_events {event : String} : event ∈ r.events ↔ 0 < r.count event := by
  rw [events, List.mem_mergeSort, List.mem_eraseDups, List.mem_map, count_eq_length_under,
    List.length_pos_iff_exists_mem]
  simp only [mem_under]

theorem pairwise_events (r : Registry L) : r.events.Pairwise (· < ·) :=
  pairwise_sorted (eraseDups_nodup _)

/-- No listener listens twice to an event. -/
theorem Tidy.nodup_identity (h : r.Tidy) (event : String) :
    ((r.under event).map (·.identity)).Nodup := by
  refine List.pairwise_map.2 (List.Pairwise.imp_of_mem ?_
    ((h.ordered.and h.once).sublist List.filter_sublist))
  intro a b ha hb ⟨hid, honce⟩ heq
  obtain ⟨-, hevent⟩ := mem_under.1 ha
  obtain ⟨-, hevent'⟩ := mem_under.1 hb
  cases hsa : a.shared <;> cases hsb : b.shared <;>
    simp only [Subscription.identity, hsa, hsb, Bool.false_eq_true, if_false, if_true, reduceCtorEq,
      Sum.inr.injEq, Sum.inl.injEq] at heq
  · exact Nat.ne_of_lt hid heq
  · exact honce hsa hsb (hevent.trans hevent'.symm) heq

theorem Tidy.eq_of_shared (h : r.Tidy) {s t : Subscription L} (hs : s ∈ r.subscriptions)
    (ht : t ∈ r.subscriptions) (hss : s.shared = true) (hts : t.shared = true)
    (hevent : s.event = t.event) (hlistener : s.listener = t.listener) : s = t := by
  have hidentity : s.identity = t.identity := by
    rw [Subscription.identity, Subscription.identity, if_pos hss, if_pos hts, hlistener]
  exact List.inj_on_of_nodup_map (h.nodup_identity t.event) (mem_under.2 ⟨hs, hevent⟩)
    (mem_under.2 ⟨ht, rfl⟩) hidentity

/-! ## The end of a subscription -/

theorem has_iff {id : Nat} : r.has id = true ↔ ∃ s ∈ r.subscriptions, s.id = id := by
  simp only [has, List.any_eq_true, beq_iff_eq]

theorem Tidy.has_nextId (h : r.Tidy) : r.has r.nextId = false := by
  rw [← Bool.not_eq_true, has_iff]
  rintro ⟨s, hs, hid⟩
  exact Nat.ne_of_lt (h.below s hs) hid

theorem unsubscribe_of_absent {id : Nat} (h : r.has id = false) : r.unsubscribe id = (r, false) := by
  have hsame : r.subscriptions.filter (fun s => s.id != id) = r.subscriptions := by
    refine List.filter_eq_self.2 fun s hs => bne_iff_ne.2 fun hid => ?_
    rw [has_iff.2 ⟨s, hs, hid⟩] at h
    cases h
  rw [unsubscribe, h, hsame]

theorem Tidy.unsubscribe_of_split (h : r.Tidy) {before after : List (Subscription L)}
    {s : Subscription L} (hsplit : r.subscriptions = before ++ s :: after) :
    r.unsubscribe s.id = ({ r with subscriptions := before ++ after }, true) := by
  obtain ⟨subscriptions, nextId⟩ := r
  obtain rfl : subscriptions = before ++ s :: after := hsplit
  obtain ⟨-, hafter, hbefore⟩ := List.pairwise_append.1 h.ordered
  have hb : before.filter (fun t => t.id != s.id) = before :=
    List.filter_eq_self.2 fun t ht => bne_iff_ne.2 (Nat.ne_of_lt (hbefore t ht s List.mem_cons_self))
  have ha : after.filter (fun t => t.id != s.id) = after :=
    List.filter_eq_self.2 fun t ht =>
      bne_iff_ne.2 (Nat.ne_of_gt ((List.pairwise_cons.1 hafter).1 t ht))
  have hhas : Registry.has ⟨before ++ s :: after, nextId⟩ s.id = true :=
    has_iff.2 ⟨s, List.mem_append_right _ List.mem_cons_self, rfl⟩
  rw [unsubscribe, hhas, List.filter_append, List.filter_cons_of_neg (by simp), hb, ha]

/-! ## Shared listeners -/

variable [DecidableEq L]

/-- A listener that is there is not added, and takes no number. -/
theorem Tidy.subscribeShared_of_mem (h : r.Tidy) {s : Subscription L} (hs : s ∈ r.subscriptions)
    (hshared : s.shared = true) : r.subscribeShared s.event s.listener = (r, s.id) := by
  cases hfind : r.shared? s.event s.listener with
  | none =>
    have hmiss := List.find?_eq_none.1 hfind s hs
    simp [hshared] at hmiss
  | some t =>
    have hfits := List.find?_some hfind
    simp only [Bool.and_eq_true, beq_iff_eq] at hfits
    obtain ⟨⟨hts, hevent⟩, hlistener⟩ := hfits
    have heq : t = s :=
      h.eq_of_shared (List.mem_of_find?_eq_some hfind) hs hts hshared hevent hlistener
    rw [subscribeShared, hfind, heq]

theorem subscribeShared_of_absent {event : String} {listener : L}
    (h : ∀ s ∈ r.under event, s.shared = true → s.listener ≠ listener) :
    r.subscribeShared event listener = r.add event listener true := by
  have hnone : r.shared? event listener = none := by
    refine List.find?_eq_none.2 fun s hs hfits => ?_
    simp only [Bool.and_eq_true, beq_iff_eq] at hfits
    obtain ⟨⟨hshared, hevent⟩, hlistener⟩ := hfits
    exact h s (mem_under.2 ⟨hs, hevent⟩) hshared hlistener
  rw [subscribeShared, hnone]

theorem subscribeShared_cases (r : Registry L) (event : String) (listener : L) :
    (∃ s ∈ r.subscriptions, r.subscribeShared event listener = (r, s.id)) ∨
      r.subscribeShared event listener = r.add event listener true := by
  rw [subscribeShared]
  cases hfind : r.shared? event listener with
  | none => exact Or.inr rfl
  | some s => exact Or.inl ⟨s, List.mem_of_find?_eq_some hfind, rfl⟩

end Registry

/-! ## Replies and numbers -/

/-- What is said to one who changes the listeners. -/
inductive RegistryReply where
  /-- The number of the subscription. -/
  | number (id : Nat)
  /-- Whether there was one to end. -/
  | ended (found : Bool)
  | done
  deriving DecidableEq, Repr

namespace Registry

variable [DecidableEq L] {r : Registry L}

def reply (r : Registry L) : RegistryMove L → RegistryReply
  | .subscribed event listener => .number (r.subscribe event listener).2
  | .shared event listener => .number (r.subscribeShared event listener).2
  | .unsubscribed id => .ended (r.unsubscribe id).2
  | .cleared => .done

/-- What is said to moves, one after the other. -/
def replies (r : Registry L) : List (RegistryMove L) → List RegistryReply
  | [] => []
  | move :: moves => r.reply move :: (r.change move).replies moves

/-- The number of a subscription that a move makes, if it makes one. -/
def number? (r : Registry L) (move : RegistryMove L) : Option Nat :=
  match r.reply move with
  | .number id => if r.has id then none else some id
  | _ => none

/-- The numbers of the subscriptions that moves make, in their order. -/
def numbers (r : Registry L) : List (RegistryMove L) → List Nat
  | [] => []
  | move :: moves => (r.number? move).toList ++ (r.change move).numbers moves

/-- A move makes no subscription and takes no number, or makes one with the next number. -/
theorem Tidy.number?_cases (h : r.Tidy) (move : RegistryMove L) :
    (r.number? move = none ∧ (r.change move).nextId = r.nextId ∧
        (r.change move).subscriptions ⊆ r.subscriptions) ∨
      ∃ event listener shared, r.number? move = some r.nextId ∧
        r.change move = (r.add event listener shared).1 := by
  have hnew : (if r.has r.nextId then none else some r.nextId) = some r.nextId := by
    rw [h.has_nextId, if_neg Bool.false_ne_true]
  cases move with
  | subscribed event listener => exact Or.inr ⟨event, listener, false, hnew, rfl⟩
  | shared event listener =>
    rw [number?, reply, Registry.change]
    rcases r.subscribeShared_cases event listener with ⟨s, hs, hold⟩ | hadd
    · rw [hold]
      exact Or.inl ⟨if_pos (has_iff.2 ⟨s, hs, rfl⟩), rfl, List.Subset.refl _⟩
    · rw [hadd]
      exact Or.inr ⟨event, listener, true, hnew, rfl⟩
  | unsubscribed id => exact Or.inl ⟨rfl, rfl, List.filter_subset_self _⟩
  | cleared => exact Or.inl ⟨rfl, rfl, List.nil_subset _⟩

/-- **No number is handed out twice**: the numbers follow one another from the next number on. -/
theorem Tidy.numbers_eq (h : r.Tidy) (moves : List (RegistryMove L)) :
    r.numbers moves = List.range' r.nextId (r.numbers moves).length ∧
      (moves.foldl Registry.change r).nextId = r.nextId + (r.numbers moves).length := by
  induction moves generalizing r with
  | nil => exact ⟨rfl, rfl⟩
  | cons move moves ih =>
    obtain ⟨hrest, hlast⟩ := ih (h.change move)
    rw [List.foldl_cons, numbers]
    rcases h.number?_cases move with ⟨hnone, hnext, -⟩ | ⟨event, listener, shared, hsome, hadd⟩
    · rw [hnone, Option.toList_none, List.nil_append]
      rw [hnext] at hrest hlast
      exact ⟨hrest, hlast⟩
    · rw [hsome, Option.toList_some, List.singleton_append, List.length_cons, List.range'_succ]
      have hnext : (r.change move).nextId = r.nextId + 1 := by rw [hadd]; rfl
      rw [hnext] at hrest hlast
      exact ⟨congrArg _ hrest, hlast.trans (by omega)⟩

/-- Every subscription was there, or has one of the numbers that were handed out. -/
theorem Tidy.mem_foldl (h : r.Tidy) (moves : List (RegistryMove L)) {s : Subscription L}
    (hs : s ∈ (moves.foldl Registry.change r).subscriptions) :
    s ∈ r.subscriptions ∨ s.id ∈ r.numbers moves := by
  induction moves generalizing r with
  | nil => exact Or.inl hs
  | cons move moves ih =>
    rw [numbers, List.mem_append]
    rcases ih (h.change move) hs with hold | hlater
    · rcases h.number?_cases move with ⟨-, -, hsub⟩ | ⟨event, listener, shared, hsome, hadd⟩
      · exact Or.inl (hsub hold)
      · rw [hadd] at hold
        rcases List.mem_append.1 hold with hold | hnew
        · exact Or.inl hold
        · rw [hsome, List.mem_singleton.1 hnew]
          exact Or.inr (Or.inl List.mem_cons_self)
    · exact Or.inr (Or.inr hlater)

/-- The numbers count up from one, and the subscriptions that are left have some of them, in their
    order. -/
structure Numbered (r : Registry L) (numbers : List Nat) : Prop where
  upwards : numbers = List.range' 1 numbers.length
  next : r.nextId = 1 + numbers.length
  ordered : r.subscriptions.Pairwise fun a b => a.id < b.id
  given : ∀ s ∈ r.subscriptions, s.id ∈ numbers

theorem numbered_foldl (moves : List (RegistryMove L)) :
    (moves.foldl Registry.change empty).Numbered ((empty : Registry L).numbers moves) where
  upwards := (tidy_empty.numbers_eq moves).1
  next := (tidy_empty.numbers_eq moves).2
  ordered := (tidy_empty.foldl moves).ordered
  given _ hs := (tidy_empty.mem_foldl moves hs).resolve_left List.not_mem_nil

end Registry

/-! ## The owner of a stream -/

namespace EventStream

variable [DecidableEq L]

/-- How a listener is added. -/
structure Subscribes (s : EventStream L) : Prop where
  /-- A shared listener that listens to the event keeps its number. -/
  there : ∀ old ∈ s.registry.subscriptions, old.shared = true →
    s.subscribeShared old.event old.listener = (s, old.id)
  shared : ∀ event listener,
    (∀ old ∈ s.registry.under event, old.shared = true → old.listener ≠ listener) →
      let new := ⟨s.registry.nextId, event, listener, true⟩
      s.subscribeShared event listener =
        ({ s with registry := ⟨s.registry.subscriptions ++ [new], s.registry.nextId + 1⟩ }, new.id)
  own : ∀ event listener,
    let new := ⟨s.registry.nextId, event, listener, false⟩
    s.subscribe event listener =
      ({ s with registry := ⟨s.registry.subscriptions ++ [new], s.registry.nextId + 1⟩ }, new.id)

/-- How a subscription is ended. -/
structure Unsubscribes (s : EventStream L) (id : Nat) : Prop where
  found : (s.unsubscribe id).2 = true ↔ ∃ old ∈ s.registry.subscriptions, old.id = id
  absent : (s.unsubscribe id).2 = false → s.unsubscribe id = (s, false)
  /-- The other subscriptions stay as they are. -/
  ended : ∀ before old after, s.registry.subscriptions = before ++ old :: after → old.id = id →
    s.unsubscribe id =
      ({ s with registry := { s.registry with subscriptions := before ++ after } }, true)

variable {s : EventStream L}

theorem subscribes (h : s.registry.Tidy) : s.Subscribes where
  there old hold hshared := by
    rw [EventStream.subscribeShared, h.subscribeShared_of_mem hold hshared]
  shared event listener habsent := by
    rw [EventStream.subscribeShared, Registry.subscribeShared_of_absent habsent]
    rfl
  own _ _ := rfl

omit [DecidableEq L] in
theorem unsubscribes (h : s.registry.Tidy) (id : Nat) : s.Unsubscribes id where
  found := Registry.has_iff
  absent hmiss := by rw [EventStream.unsubscribe, Registry.unsubscribe_of_absent hmiss]
  ended := by
    rintro before old after hsplit rfl
    rw [EventStream.unsubscribe, h.unsubscribe_of_split hsplit]

end EventStream
end LightningLottery
