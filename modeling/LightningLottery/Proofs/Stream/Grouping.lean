/-
  Listeners grouped by the event they listen to.

  * `ListenerTable`: a group for each event that anyone listens to, in no particular order.
  * `ListenerTable.add`, `remove`: a listener is looked up in the group of its event, and a number
    in all groups; a group that gets empty goes.
  * `ListenerTable.Agrees`: the groups are those of a registry.
  * `Agrees.change`: they stay so with every change, and tell the same.
  * `ListenerTable.Runs.agrees`: in any order of the groups, a table does what a registry does.
  * `ListenerTable.Grouped`: a registry that says what every table with its moves says.
  * `StreamCourse.listeners_in_order`: so the listeners of a stream are one list, whatever happens
    to it.
-/
import LightningLottery.Proofs.Lists
import LightningLottery.Proofs.Stream.Course
import LightningLottery.Proofs.Stream.Registering

namespace LightningLottery

/-- The subscriptions by the name of their event. -/
structure ListenerTable (L : Type) where
  groups : List (String × List (Subscription L))
  nextId : Nat

variable {L : Type}

namespace ListenerTable

def empty : ListenerTable L := ⟨[], 1⟩

/-- The subscriptions to an event, if there are any. -/
def group? (t : ListenerTable L) (event : String) : Option (List (Subscription L)) :=
  (t.groups.find? (·.1 == event)).map (·.2)

/-- A subscription behind the others of its group, or in a group of its own. -/
def push (t : ListenerTable L) (event : String) (s : Subscription L) :
    List (String × List (Subscription L)) :=
  if (t.group? event).isSome then
    t.groups.map fun g => (g.1, if g.1 = event then g.2 ++ [s] else g.2)
  else t.groups ++ [(event, [s])]

/-- Adds a listener to an event, unless it is a shared one that is there. -/
def add [DecidableEq L] (t : ListenerTable L) (event : String) (listener : L) (shared : Bool) :
    ListenerTable L × Nat :=
  match (t.group? event).bind
      (·.find? fun s => shared && s.shared && s.listener == listener) with
  | some s => (t, s.id)
  | none => (⟨t.push event ⟨t.nextId, event, listener, shared⟩, t.nextId + 1⟩, t.nextId)

/-- What is left of a group without a subscription: nothing if that was the only one. -/
def without (id : Nat) (g : String × List (Subscription L)) :
    Option (String × List (Subscription L)) :=
  if (g.2.eraseP (·.id == id)).isEmpty then none else some (g.1, g.2.eraseP (·.id == id))

/-- Ends the subscription with this number, which is looked for in all groups. -/
def remove (t : ListenerTable L) (id : Nat) : ListenerTable L × Bool :=
  match t.groups.find? fun g => g.2.any (·.id == id) with
  | none => (t, false)
  | some (event, _) =>
    ({ t with groups := t.groups.filterMap fun g => if g.1 = event then without id g else some g },
      true)

def clear (t : ListenerTable L) : ListenerTable L := { t with groups := [] }

def count (t : ListenerTable L) (event : String) : Nat := ((t.group? event).map (·.length)).getD 0

/-- The names of the groups, sorted. -/
def events (t : ListenerTable L) : List String :=
  (t.groups.map (·.1)).mergeSort fun a b => !(b < a)

end ListenerTable

/-! ## Changes and replies -/

section Changes

variable [DecidableEq L]

def ListenerTable.change (t : ListenerTable L) : RegistryMove L → ListenerTable L
  | .subscribed event listener => (t.add event listener false).1
  | .shared event listener => (t.add event listener true).1
  | .unsubscribed id => (t.remove id).1
  | .cleared => t.clear

def ListenerTable.reply (t : ListenerTable L) : RegistryMove L → RegistryReply
  | .subscribed event listener => .number (t.add event listener false).2
  | .shared event listener => .number (t.add event listener true).2
  | .unsubscribed id => .ended (t.remove id).2
  | .cleared => .done

/-- A table makes the moves, and says this; its groups may change places at any time. -/
inductive ListenerTable.Runs : ListenerTable L → List (RegistryMove L) → List RegistryReply →
    ListenerTable L → Prop
  | nil {t u : ListenerTable L} (hperm : t.groups.Perm u.groups) (hnext : t.nextId = u.nextId) :
    Runs t [] [] u
  | cons {t u v : ListenerTable L} {move : RegistryMove L} {moves : List (RegistryMove L)}
    {replies : List RegistryReply} (hperm : t.groups.Perm u.groups) (hnext : t.nextId = u.nextId)
    (hrest : Runs (u.change move) moves replies v) :
    Runs t (move :: moves) (u.reply move :: replies) v

end Changes

/-! ## Tables of a registry -/

/-- There is one group for each event that anyone listens to, and it holds all that listen. -/
structure ListenerTable.Agrees (t : ListenerTable L) (r : Registry L) : Prop where
  nextId : t.nextId = r.nextId
  names : (t.groups.map (·.1)).Nodup
  groups : ∀ event ls, (event, ls) ∈ t.groups ↔ ls ≠ [] ∧ ls = r.under event

namespace ListenerTable.Agrees

variable {t : ListenerTable L} {r : Registry L}

theorem empty : (ListenerTable.empty : ListenerTable L).Agrees .empty where
  nextId := rfl
  names := .nil
  groups _ _ := ⟨nofun, fun ⟨hne, h⟩ => absurd h hne⟩

theorem perm (h : t.Agrees r) {u : ListenerTable L} (hperm : t.groups.Perm u.groups)
    (hnext : t.nextId = u.nextId) : u.Agrees r where
  nextId := hnext ▸ h.nextId
  names := (hperm.map _).nodup_iff.1 h.names
  groups event ls := hperm.mem_iff.symm.trans (h.groups event ls)

theorem group?_eq_some_iff (h : t.Agrees r) {event : String} {ls : List (Subscription L)} :
    t.group? event = some ls ↔ ls ≠ [] ∧ ls = r.under event := by
  rw [← h.groups, group?, find?_key_eq_some_iff h.names]

theorem group?_eq_none_iff (h : t.Agrees r) {event : String} :
    t.group? event = none ↔ r.under event = [] := by
  rw [Option.eq_none_iff_forall_ne_some]
  constructor
  · intro hnone
    by_contra hne
    exact hnone _ (h.group?_eq_some_iff.2 ⟨hne, rfl⟩)
  · rintro hnil ls hls
    obtain ⟨hne, rfl⟩ := h.group?_eq_some_iff.1 hls
    exact hne hnil

theorem getD_group? (h : t.Agrees r) (event : String) : (t.group? event).getD [] = r.under event := by
  cases hg : t.group? event with
  | none => exact (h.group?_eq_none_iff.1 hg).symm
  | some ls => exact (h.group?_eq_some_iff.1 hg).2

/-! ### What a table tells -/

theorem count_eq (h : t.Agrees r) (event : String) : t.count event = r.count event := by
  rw [Registry.count_eq_length_under, ← h.getD_group?, count]
  cases t.group? event <;> rfl

theorem find?_eq (h : t.Agrees r) (event : String) (p : Subscription L → Bool) :
    (t.group? event).bind (·.find? p) = r.subscriptions.find? fun s => s.event == event && p s := by
  have hbind : (t.group? event).bind (·.find? p) = ((t.group? event).getD []).find? p := by
    cases t.group? event <;> rfl
  rw [hbind, h.getD_group?, Registry.under, List.find?_filter]
  simp only [Bool.decide_and, Bool.decide_eq_true]

theorem mem_group (h : t.Agrees r) {g : String × List (Subscription L)} (hg : g ∈ t.groups)
    {s : Subscription L} : s ∈ g.2 ↔ s ∈ r.subscriptions ∧ s.event = g.1 := by
  rw [((h.groups g.1 g.2).1 hg).2, Registry.mem_under]

theorem exists_group (h : t.Agrees r) {s : Subscription L} (hs : s ∈ r.subscriptions) :
    ∃ g ∈ t.groups, s ∈ g.2 := by
  have hmem : s ∈ r.under s.event := Registry.mem_under.2 ⟨hs, rfl⟩
  exact ⟨_, (h.groups s.event _).2 ⟨List.ne_nil_of_mem hmem, rfl⟩, hmem⟩

theorem mem_names (h : t.Agrees r) {event : String} :
    event ∈ t.groups.map (·.1) ↔ r.under event ≠ [] := by
  rw [List.mem_map]
  constructor
  · rintro ⟨⟨name, ls⟩, hmem, rfl⟩
    obtain ⟨hne, rfl⟩ := (h.groups _ _).1 hmem
    exact hne
  · intro hne
    exact ⟨_, (h.groups event _).2 ⟨hne, rfl⟩, rfl⟩

/-- Both sort the same names, of which none occurs twice. -/
theorem events_eq (h : t.Agrees r) : t.events = r.events := by
  refine (pairwise_sorted h.names).eq_of_mem_iff r.pairwise_events fun event => ?_
  rw [List.mem_mergeSort, h.mem_names, Registry.mem_events, Registry.count_eq_length_under,
    List.length_pos_iff]

/-! ### Changes -/

/-- A subscription goes behind the others to its event, where there are any. -/
theorem push_behind (h : t.Agrees r) {event : String} (hne : r.under event ≠ []) (listener : L)
    (shared : Bool) :
    (⟨t.groups.map fun g =>
        (g.1, if g.1 = event then g.2 ++ [⟨r.nextId, event, listener, shared⟩] else g.2),
      r.nextId + 1⟩ : ListenerTable L).Agrees (r.add event listener shared).1 := by
  refine ⟨rfl, ?_, fun event' ls => ?_⟩
  · rw [List.map_map]
    exact h.names
  · rw [mem_map_behind_iff, Registry.under_add]
    by_cases he : event = event'
    · subst he
      rw [if_pos rfl]
      constructor
      · rintro (⟨-, hother⟩ | ⟨items, hmem, heq⟩)
        · exact absurd rfl hother
        · obtain ⟨-, rfl⟩ := (h.groups _ _).1 hmem
          obtain rfl := (Prod.mk.inj heq).2
          exact ⟨List.append_ne_nil_of_left_ne_nil hne _, rfl⟩
      · rintro ⟨-, rfl⟩
        exact Or.inr ⟨_, (h.groups _ _).2 ⟨hne, rfl⟩, rfl⟩
    · rw [if_neg he, List.append_nil, ← h.groups]
      refine ⟨?_, fun hmem => Or.inl ⟨hmem, Ne.symm he⟩⟩
      rintro (⟨hmem, -⟩ | ⟨_, -, heq⟩)
      · exact hmem
      · exact absurd (Prod.mk.inj heq).1.symm he

theorem push_first (h : t.Agrees r) {event : String} (hnil : r.under event = []) (listener : L)
    (shared : Bool) :
    (⟨t.groups ++ [(event, [⟨r.nextId, event, listener, shared⟩])], r.nextId + 1⟩ :
      ListenerTable L).Agrees (r.add event listener shared).1 := by
  refine ⟨rfl, ?_, fun event' ls => ?_⟩
  · rw [List.map_append]
    refine List.nodup_append.2 ⟨h.names, List.nodup_singleton _, ?_⟩
    rintro name hname _ (_ | _) rfl
    · exact h.mem_names.1 hname hnil
    · contradiction
  · rw [Registry.under_add, List.mem_append, List.mem_singleton, h.groups, Prod.mk.injEq]
    by_cases he : event = event'
    · subst he
      rw [hnil, if_pos rfl, List.nil_append]
      constructor
      · rintro (⟨hne, rfl⟩ | ⟨-, rfl⟩)
        · exact absurd rfl hne
        · exact ⟨List.cons_ne_nil _ _, rfl⟩
      · rintro ⟨-, rfl⟩
        exact Or.inr ⟨rfl, rfl⟩
    · rw [if_neg he, List.append_nil]
      exact or_iff_left fun hnew => he hnew.1.symm

theorem push (h : t.Agrees r) (event : String) (listener : L) (shared : Bool) :
    (⟨t.push event ⟨t.nextId, event, listener, shared⟩, t.nextId + 1⟩ : ListenerTable L).Agrees
      (r.add event listener shared).1 := by
  rw [h.nextId, ListenerTable.push]
  by_cases hnil : r.under event = []
  · rw [h.group?_eq_none_iff.2 hnil, if_neg (by exact Bool.false_ne_true)]
    exact h.push_first hnil listener shared
  · rw [h.group?_eq_some_iff.2 ⟨hnil, rfl⟩, if_pos (by exact rfl)]
    exact h.push_behind hnil listener shared

theorem without_eq_some_iff {id : Nat} {g g' : String × List (Subscription L)} :
    without id g = some g' ↔ g'.2 ≠ [] ∧ (g.1, g.2.eraseP (·.id == id)) = g' := by
  unfold without
  split
  · next hempty =>
    rw [List.isEmpty_iff] at hempty
    refine ⟨nofun, ?_⟩
    rintro ⟨hne, rfl⟩
    exact absurd hempty hne
  · next hfull =>
    rw [List.isEmpty_iff] at hfull
    rw [Option.some.injEq]
    refine ⟨?_, And.right⟩
    rintro rfl
    exact ⟨hfull, rfl⟩

theorem without_of_forall {id : Nat} {g : String × List (Subscription L)} (hne : g.2 ≠ [])
    (hid : ∀ s ∈ g.2, s.id ≠ id) : without id g = some g := by
  have hsame : g.2.eraseP (·.id == id) = g.2 :=
    List.eraseP_of_forall_not fun s hs => by simpa using hid s hs
  exact without_eq_some_iff.2 ⟨hne, by rw [hsame]⟩

/-- Numbers are distinct, so erasing the first subscription with a number erases the only one. -/
theorem eraseP_eq_filter {ls : List (Subscription L)} (h : ls.Pairwise fun a b => a.id < b.id)
    (id : Nat) : ls.eraseP (·.id == id) = ls.filter (·.id != id) := by
  induction h with
  | nil => rfl
  | @cons s ls hlater _ ih =>
    by_cases hs : s.id = id
    · have hrest : ∀ s' ∈ ls, (s'.id != id) = true := fun s' hs' =>
        bne_iff_ne.2 fun he => absurd (hlater s' hs') (by omega)
      rw [List.eraseP_cons_of_pos (by simpa using hs), List.filter_cons_of_neg (by simpa using hs),
        List.filter_eq_self.2 hrest]
    · rw [List.eraseP_cons_of_neg (by simpa using hs), List.filter_cons_of_pos (by simpa using hs),
        ih]

/-- The subscription goes from its group, and a group that gets empty goes. -/
theorem filterMap_without (h : t.Agrees r) (hr : r.Tidy) (id : Nat) :
    ({ t with groups := t.groups.filterMap (without id) } : ListenerTable L).Agrees
      (r.unsubscribe id).1 where
  nextId := h.nextId
  names := by
    refine List.pairwise_map.2 (List.pairwise_filterMap.2 ((List.pairwise_map.1 h.names).imp ?_))
    intro g g' hne u hu u' hu'
    obtain ⟨-, rfl⟩ := without_eq_some_iff.1 hu
    obtain ⟨-, rfl⟩ := without_eq_some_iff.1 hu'
    exact hne
  groups event ls := by
    have herase : (r.under event).eraseP (·.id == id) = (r.unsubscribe id).1.under event :=
      (eraseP_eq_filter (hr.ordered.sublist List.filter_sublist) id).trans
        (Registry.under_unsubscribe id event).symm
    rw [← herase, List.mem_filterMap]
    constructor
    · rintro ⟨⟨name, ls'⟩, hmem, hleft⟩
      obtain ⟨hne, heq⟩ := without_eq_some_iff.1 hleft
      obtain ⟨rfl, rfl⟩ := Prod.mk.inj heq
      obtain ⟨-, rfl⟩ := (h.groups _ _).1 hmem
      exact ⟨hne, rfl⟩
    · rintro ⟨hne, rfl⟩
      have hunder : r.under event ≠ [] := fun hnil => hne (by rw [hnil]; rfl)
      exact ⟨_, (h.groups _ _).2 ⟨hunder, rfl⟩, without_eq_some_iff.2 ⟨hne, rfl⟩⟩

/-- Only one group has a subscription with the number, so the others stay as they are. -/
theorem remove_eq (h : t.Agrees r) (hr : r.Tidy) (id : Nat) :
    t.remove id = ({ t with groups := t.groups.filterMap (without id) }, r.has id) := by
  have hkept : ∀ g ∈ t.groups, (∀ s ∈ g.2, s.id ≠ id) → without id g = some g := fun g hg =>
    without_of_forall ((h.groups g.1 g.2).1 hg).1
  unfold remove
  split
  · next hnone =>
    have hmiss : ∀ g ∈ t.groups, ∀ s ∈ g.2, s.id ≠ id := by
      simpa only [List.any_eq_true, beq_iff_eq, not_exists, not_and] using List.find?_eq_none.1 hnone
    have hhas : r.has id = false := by
      rw [Registry.has, List.any_eq_false]
      intro s hs
      obtain ⟨g, hg, hsg⟩ := h.exists_group hs
      simpa using hmiss g hg s hsg
    have hsame : t.groups.filterMap (without id) = t.groups :=
      (List.filterMap_congr fun g hg => hkept g hg (hmiss g hg)).trans List.filterMap_some
    rw [hhas, hsame]
  · next event ls hsome =>
    have hmem : (event, ls) ∈ t.groups := List.mem_of_find?_eq_some hsome
    have hany := List.find?_some hsome
    obtain ⟨s, hs, hid⟩ := List.any_eq_true.1 hany
    obtain ⟨hsub, hevent⟩ := (h.mem_group hmem).1 hs
    rw [beq_iff_eq] at hid
    rw [Registry.has_iff.2 ⟨s, hsub, hid⟩]
    congr 2
    refine List.filterMap_congr fun g hg => ?_
    split
    · rfl
    · next hother =>
      refine (hkept g hg fun s' hs' hid' => hother ?_).symm
      obtain ⟨hsub', hevent'⟩ := (h.mem_group hg).1 hs'
      rw [← hevent', hr.eq_of_id hsub' hsub (hid'.trans hid.symm), hevent]

theorem unsubscribe (h : t.Agrees r) (hr : r.Tidy) (id : Nat) :
    (t.remove id).1.Agrees (r.unsubscribe id).1 ∧ (t.remove id).2 = (r.unsubscribe id).2 := by
  rw [h.remove_eq hr]
  exact ⟨h.filterMap_without hr id, rfl⟩

theorem clear (h : t.Agrees r) : t.clear.Agrees r.clear :=
  ⟨h.nextId, .nil, fun _ _ => ⟨nofun, fun ⟨hne, hnil⟩ => absurd hnil hne⟩⟩

variable [DecidableEq L]

theorem subscribe (h : t.Agrees r) (event : String) (listener : L) :
    (t.add event listener false).1.Agrees (r.subscribe event listener).1 ∧
      (t.add event listener false).2 = (r.subscribe event listener).2 := by
  have hnone : (t.group? event).bind
      (·.find? fun s => false && s.shared && s.listener == listener) = none := by
    rw [h.find?_eq]
    exact List.find?_eq_none.2 fun s _ => by simp
  rw [ListenerTable.add, hnone]
  exact ⟨h.push event listener false, h.nextId⟩

theorem subscribeShared (h : t.Agrees r) (event : String) (listener : L) :
    (t.add event listener true).1.Agrees (r.subscribeShared event listener).1 ∧
      (t.add event listener true).2 = (r.subscribeShared event listener).2 := by
  have hfind : (t.group? event).bind
      (·.find? fun s => true && s.shared && s.listener == listener) = r.shared? event listener := by
    rw [h.find?_eq, Registry.shared?]
    congr 1
    funext s
    rw [Bool.true_and, Bool.and_left_comm, Bool.and_assoc]
  rw [ListenerTable.add, hfind, Registry.subscribeShared]
  cases r.shared? event listener with
  | none => exact ⟨h.push event listener true, h.nextId⟩
  | some s => exact ⟨h, rfl⟩

/-- One move preserves `Agrees`, and the replies are the same. -/
theorem change (h : t.Agrees r) (hr : r.Tidy) (move : RegistryMove L) :
    (t.change move).Agrees (r.change move) ∧ t.reply move = r.reply move := by
  cases move with
  | subscribed event listener =>
    obtain ⟨hafter, hnumber⟩ := h.subscribe event listener
    exact ⟨hafter, congrArg RegistryReply.number hnumber⟩
  | shared event listener =>
    obtain ⟨hafter, hnumber⟩ := h.subscribeShared event listener
    exact ⟨hafter, congrArg RegistryReply.number hnumber⟩
  | unsubscribed id =>
    obtain ⟨hafter, hfound⟩ := h.unsubscribe hr id
    exact ⟨hafter, congrArg RegistryReply.ended hfound⟩
  | cleared => exact ⟨h.clear, rfl⟩

end ListenerTable.Agrees

/-- **A run of moves preserves `Agrees`**, in whatever order the groups stand. -/
theorem ListenerTable.Runs.agrees [DecidableEq L] {t u : ListenerTable L} {r : Registry L}
    {moves : List (RegistryMove L)} {replies : List RegistryReply}
    (hruns : t.Runs moves replies u) (h : t.Agrees r) (hr : r.Tidy) :
    replies = r.replies moves ∧ u.Agrees (moves.foldl Registry.change r) := by
  induction hruns generalizing r with
  | nil hperm hnext => exact ⟨rfl, h.perm hperm hnext⟩
  | cons hperm hnext _ ih =>
    obtain ⟨hu, hreply⟩ := (h.perm hperm hnext).change hr _
    obtain ⟨hreplies, hlast⟩ := ih hu (hr.change _)
    exact ⟨by rw [hreply, hreplies]; rfl, hlast⟩

theorem ListenerTable.exists_runs [DecidableEq L] (t : ListenerTable L)
    (moves : List (RegistryMove L)) : ∃ replies u, t.Runs moves replies u := by
  induction moves generalizing t with
  | nil => exact ⟨[], t, .nil (.refl _) rfl⟩
  | cons move moves ih =>
    obtain ⟨replies, u, hruns⟩ := ih (t.change move)
    exact ⟨_, u, .cons (.refl _) rfl hruns⟩

/-- A table tells what a registry does. -/
structure ListenerTable.Tells (t : ListenerTable L) (r : Registry L) : Prop where
  nextId : t.nextId = r.nextId
  events : t.events = r.events
  under : ∀ event, (t.group? event).getD [] = r.under event
  count : ∀ event, t.count event = r.count event

/-- A registry is made by these moves, and a table that makes them says and tells the same. -/
structure ListenerTable.Grouped [DecidableEq L] (moves : List (RegistryMove L)) (r : Registry L) :
    Prop where
  made : r = moves.foldl Registry.change .empty
  exists_runs : ∃ replies u, (empty : ListenerTable L).Runs moves replies u
  runs : ∀ replies u, empty.Runs moves replies u →
    replies = Registry.empty.replies moves ∧ u.Tells r

theorem ListenerTable.grouped_foldl [DecidableEq L] (moves : List (RegistryMove L)) :
    Grouped moves (moves.foldl Registry.change .empty) where
  made := rfl
  exists_runs := empty.exists_runs moves
  runs replies u hruns := by
    obtain ⟨hreplies, hu⟩ := hruns.agrees .empty Registry.tidy_empty
    exact ⟨hreplies, hu.nextId, hu.events_eq, hu.getD_group?, hu.count_eq⟩

/-! ## Listeners of a stream -/

/-- What a move does to the listeners, if it does anything to them. -/
def StreamMove.change? : StreamMove L → Option (RegistryMove L)
  | .changed change => some change
  | .closed => some .cleared
  | _ => none

namespace StreamCourse

variable [DecidableEq L]

omit [DecidableEq L] in
theorem registry_wake (c : StreamCourse L) (time : Nat) :
    (c.wake time).stream.registry = c.stream.registry :=
  EventStream.arrive_registry _ _

/-- Only changes and `closed` moves change the registry. -/
theorem registry_next (c : StreamCourse L) (move : StreamMove L) :
    (c.next move).stream.registry =
      move.change?.elim c.stream.registry c.stream.registry.change := by
  cases move with
  | arrived arrival =>
    simp only [next]
    split
    · split <;> exact EventStream.arrive_registry _ _
    · rfl
  | passed milliseconds =>
    simp only [next]
    split
    · split
      · exact c.registry_wake _
      · rfl
    · rfl
  | changed change =>
    rw [next, alter, EventStream.change_eq]
    rfl
  | closed => rfl
  | aborted =>
    simp only [next]
    split <;> rfl

theorem registry_run (c : StreamCourse L) (moves : List (StreamMove L)) :
    (c.run moves).stream.registry =
      (moves.filterMap StreamMove.change?).foldl Registry.change c.stream.registry := by
  induction moves generalizing c with
  | nil => rfl
  | cons move moves ih =>
    refine (ih (c.next move)).trans ?_
    rw [registry_next]
    cases hchange : move.change? with
    | none => rw [List.filterMap_cons_none hchange]; rfl
    | some change => rw [List.filterMap_cons_some hchange]; rfl

/-- **The listeners of a stream are the list that `Registry` keeps**: every `ListenerTable` with the
    same moves says and tells the same (`Grouped`), numbers count up from one (`Numbered`), no
    listener is there twice, and subscribing and unsubscribing do what `Subscribes` and
    `Unsubscribes` say. -/
theorem listeners_in_order (backoff : Backoff) (course : List (StreamMove L)) :
    let moves := course.filterMap StreamMove.change?
    let stream := ((start backoff).run course).stream
    let r := stream.registry
    ListenerTable.Grouped moves r ∧
    r.Numbered (Registry.empty.numbers moves) ∧
    (∀ event, ((r.under event).map (·.identity)).Nodup) ∧
    stream.Subscribes ∧
    (∀ id, stream.Unsubscribes id) ∧
    r.events.Pairwise (· < ·) ∧ ∀ event, event ∈ r.events ↔ 0 < r.count event := by
  intro moves stream r
  have hr : r = moves.foldl Registry.change .empty := registry_run (start backoff) course
  have htidy : r.Tidy := hr ▸ Registry.tidy_empty.foldl moves
  exact ⟨hr ▸ ListenerTable.grouped_foldl moves, hr ▸ Registry.numbered_foldl moves,
    htidy.nodup_identity, EventStream.subscribes htidy, EventStream.unsubscribes htidy,
    r.pairwise_events, fun _ => Registry.mem_events⟩

end StreamCourse
end LightningLottery
