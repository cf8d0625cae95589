/-
  Records that are read back from what is written of them.

  * `Shape.ReadsBack`: an item is read back from its JSON value.
  * `Slot`: a field and the item that it holds; `Slot.Holds` if that is read back.
  * `Shape.readMembers_slots`: the members of a record are found in any order and among others.
  * `Shape.read_object`, `Shape.read_values`: a record is read from an object of its members, and
    from the list of its fields.
  * `Shape.read_default`: a member that holds the default of its field may as well be missing.
-/
import LightningLottery.Json.Shape
import LightningLottery.Proofs.Json.Compact

namespace LightningLottery

open Json (Fault IsWord)
open Json.Node (ofWritten ofWrittenItems ofWrittenMembers)

namespace Shape

/-! ## Items -/

/-- An item of a shape is read back from its JSON value. -/
def ReadsBack (shape : Shape) (item : Item) : Prop :=
  read (ofWritten (write item shape)) shape = .ok item

theorem readsBack_text (s : String) : ReadsBack .text (.text s) := rfl

theorem readsBack_flag (b : Bool) : ReadsBack .flag (.flag b) := rfl

theorem readsBack_whole {min max n : Int} (hword : IsWord n) (hmin : min ≤ n) (hmax : n ≤ max) :
    ReadsBack (.whole min max) (.whole n) := by
  rw [ReadsBack, write, ofWritten, Json.readNumber_whole hword, read]
  simp only [hmin, hmax, decide_true, Bool.and_self, if_true]

theorem readsBack_list {element : Shape} {items : List Item}
    (h : ∀ item ∈ items, ReadsBack element item) : ReadsBack (.list element) (.list items) := by
  have hitems : readItems (ofWrittenItems (writeItems items element)) element = .ok items := by
    induction items with
    | nil => rfl
    | cons item items ih =>
      obtain ⟨hitem, hitems⟩ := List.forall_mem_cons.1 h
      rw [ReadsBack] at hitem
      rw [writeItems, ofWrittenItems, readItems, hitem, ih hitems]
      rfl
  rw [ReadsBack, write, ofWritten, read, hitems]
  rfl

end Shape

/-- A field and the item that it holds. -/
structure Slot where
  rule : FieldRule
  shape : Shape
  item : Item

namespace Slot

/-- The field of a slot. -/
def field (s : Slot) : FieldRule × Shape := (s.rule, s.shape)

/-- The name of the field of a slot. -/
def name (s : Slot) : String := s.rule.name

/-- The JSON value of what a slot holds. -/
def json (s : Slot) : Json := Shape.write s.item s.shape

/-- What a slot holds is read back as the value of its field. -/
def Holds (s : Slot) : Prop :=
  Shape.orAbsent s.rule (ofWritten s.json) (Shape.read (ofWritten s.json) s.shape) = .ok s.item

/-- What a slot holds is what its field holds when it is missing. -/
def IsDefault (s : Slot) : Prop := s.rule.default = some s.item

/-- Whether a slot is left out in writing. -/
def isOmitted (s : Slot) : Bool :=
  match s.item with
  | .absent => s.rule.omitted
  | _ => false

theorem holds_of_readsBack {s : Slot} (h : s.shape.ReadsBack s.item) : s.Holds := by
  have hnull : ofWritten s.json ≠ .null := by
    intro hnull
    rw [Shape.ReadsBack, ← json, hnull] at h
    cases hshape : s.shape <;> rw [hshape] at h <;> cases h
  unfold Holds Shape.orAbsent
  split
  · next he _ => exact absurd he hnull
  · exact h

theorem holds_absent {s : Slot} (hitem : s.item = .absent) (hnullable : s.rule.nullable = true) :
    s.Holds := by
  rw [Holds, json, hitem]
  simp only [Shape.write, ofWritten, Shape.orAbsent, hnullable]

end Slot

namespace Shape

variable {slots : List Slot}

/-! ## Names -/

theorem fieldNamed?_eq_none {name : String} {fields : List (FieldRule × Shape)}
    (h : name ∉ fields.map (·.1.name)) : fieldNamed? name fields = none := by
  induction fields with
  | nil => rfl
  | cons field fields ih =>
    rw [List.map_cons, List.mem_cons, not_or] at h
    rw [fieldNamed?, if_neg (Ne.symm h.1), ih h.2, Option.map_none]

theorem fieldNamed?_append {before after : List (FieldRule × Shape)} {rule : FieldRule}
    {shape : Shape} (h : rule.name ∉ before.map (·.1.name)) :
    fieldNamed? rule.name (before ++ (rule, shape) :: after) =
      some (before.length, rule, shape) := by
  induction before with
  | nil => rw [List.nil_append, fieldNamed?, if_pos rfl, List.length_nil]
  | cons field before ih =>
    rw [List.map_cons, List.mem_cons, not_or] at h
    rw [List.cons_append, fieldNamed?, if_neg (Ne.symm h.1), ih h.2]
    rfl

/-- Where no two fields have one name, each is found by its name. -/
theorem exists_fieldNamed? {fields : List (FieldRule × Shape)}
    (hnames : (fields.map (·.1.name)).Nodup) {rule : FieldRule} {shape : Shape}
    (h : (rule, shape) ∈ fields) : ∃ i, fieldNamed? rule.name fields = some (i, rule, shape) := by
  obtain ⟨before, after, rfl⟩ := List.append_of_mem h
  rw [List.map_append, List.map_cons, List.nodup_append] at hnames
  refine ⟨before.length, fieldNamed?_append fun hm => ?_⟩
  exact hnames.2.2 _ hm _ List.mem_cons_self rfl

theorem fieldNamed?_spec {name : String} {fields : List (FieldRule × Shape)} {i : Nat}
    {rule : FieldRule} {shape : Shape} (h : fieldNamed? name fields = some (i, rule, shape)) :
    fields[i]? = some (rule, shape) ∧ rule.name = name := by
  induction fields generalizing i with
  | nil => cases h
  | cons field fields ih =>
    rw [fieldNamed?] at h
    split at h
    · next hname => cases h; exact ⟨rfl, hname⟩
    · obtain ⟨⟨j, rule', shape'⟩, hj, he⟩ := Option.map_eq_some_iff.1 h
      cases he
      exact ih hj

/-! ## Objects -/

/-- What is found of a record once a member of an object is read, too. -/
def findMember (fields : List (FieldRule × Shape)) (found : List (Option Item))
    (member : Except Fault String × Json.Node) : Except Fault (List (Option Item)) := do
  let name ← member.1
  match fieldNamed? name fields with
  | none =>
    match member.2.skipFault? with
    | some fault => .error fault
    | none => .ok found
  | some (i, rule, shape) =>
    if ((found[i]?).getD none).isSome then .error .misfit
    else
      let item ← orAbsent rule member.2 (read member.2 shape)
      return found.set i (some item)

theorem readMembers_eq (members : List (Except Fault String × Json.Node))
    (fields : List (FieldRule × Shape)) (found : List (Option Item)) :
    readMembers members fields found = members.foldlM (findMember fields) found := by
  induction members generalizing found with
  | nil => rfl
  | cons member members ih =>
    obtain ⟨key, node⟩ := member
    rw [List.foldlM_cons, readMembers, findMember]
    cases key with
    | error fault => rfl
    | ok name =>
      simp only [bind, Except.bind]
      cases hfield : fieldNamed? name fields with
      | none => cases hskip : node.skipFault? with
        | some fault => rfl
        | none => exact ih found
      | some field =>
        simp only
        split
        · rfl
        · cases orAbsent field.2.1 node (read node field.2.2) with
          | error fault => rfl
          | ok item => exact ih _

/-- What was found of a record, if these names were seen. -/
def found (slots : List Slot) (seen : List String) : List (Option Item) :=
  slots.map fun s => if s.name ∈ seen then some s.item else none

theorem found_congr {seen seen' : List String} (h : ∀ s ∈ slots, s.name ∈ seen ↔ s.name ∈ seen') :
    found slots seen = found slots seen' :=
  List.map_congr_left fun s hs => by simp only [h s hs]

theorem found_nil : found slots [] = (slots.map Slot.field).map fun _ => none := by
  rw [found, List.map_map]
  exact List.map_congr_left fun s _ => if_neg List.not_mem_nil

/-- **A member of a record is found at its place.** -/
theorem findMember_slot {before after : List Slot} {s : Slot} {seen : List String}
    (hnames : ((before ++ s :: after).map Slot.name).Nodup) (hholds : s.Holds)
    (hnew : s.name ∉ seen) :
    findMember ((before ++ s :: after).map Slot.field) (found (before ++ s :: after) seen)
        (.ok s.name, ofWritten s.json) =
      .ok (found (before ++ s :: after) (s.name :: seen)) := by
  rw [List.map_append, List.map_cons, List.nodup_append] at hnames
  obtain ⟨-, hafter, hdisjoint⟩ := hnames
  have hbefore : ∀ t ∈ before, t.name ≠ s.name := fun t ht =>
    hdisjoint t.name (List.mem_map_of_mem ht) s.name List.mem_cons_self
  have hafter' : ∀ t ∈ after, t.name ≠ s.name := by
    intro t ht he
    exact (List.nodup_cons.1 hafter).1 (he ▸ List.mem_map_of_mem ht)
  have hfield : fieldNamed? s.name ((before ++ s :: after).map Slot.field) =
      some (before.length, s.rule, s.shape) := by
    rw [List.map_append, List.map_cons, ← List.length_map (f := Slot.field)]
    refine fieldNamed?_append ?_
    rw [List.map_map]
    intro hm
    obtain ⟨t, ht, he⟩ := List.mem_map.1 hm
    exact hbefore t ht he
  have hother {ts : List Slot} (h : ∀ t ∈ ts, t.name ≠ s.name) :
      found ts (s.name :: seen) = found ts seen :=
    found_congr fun t ht => by rw [List.mem_cons, or_iff_right (h t ht)]
  have hfound (names : List String) : found (before ++ s :: after) names =
      found before names ++ (if s.name ∈ names then some s.item else none) :: found after names := by
    rw [found, List.map_append, List.map_cons]
    rfl
  have hplace : (found before seen).length = before.length := List.length_map _
  have hset : (found before seen ++ none :: found after seen).set (found before seen).length
      (some s.item) = found before seen ++ some s.item :: found after seen := by
    rw [List.set_append_right _ _ (Nat.le_refl _), Nat.sub_self, List.set_cons_zero]
  rw [Slot.Holds] at hholds
  rw [findMember, hfound seen, hfound (s.name :: seen), hother hbefore, hother hafter',
    if_neg hnew, if_pos List.mem_cons_self]
  simp only [bind, Except.bind, hfield, ← hplace, List.getElem?_append_right (Nat.le_refl _),
    Nat.sub_self, List.getElem?_cons_zero, Option.getD_some, Option.isSome_none, hholds, hset,
    Bool.false_eq_true, if_false]
  rfl

/-- A member that is no field is passed over. -/
theorem findMember_other {fields : List (FieldRule × Shape)} {key : String}
    (h : key ∉ fields.map (·.1.name)) (v : Json) (before : List (Option Item)) :
    findMember fields before (.ok key, ofWritten v) = .ok before := by
  rw [findMember]
  simp only [bind, Except.bind, fieldNamed?_eq_none h, Json.Node.skipFault?_ofWritten]

/-- **The members of a record are found**, in any order and among others. -/
theorem readMembers_slots (hnames : (slots.map Slot.name).Nodup) (hholds : ∀ s ∈ slots, s.Holds)
    {members : List (String × Json)} {seen : List String}
    (hmembers : ∀ m ∈ members, m.1 ∈ slots.map Slot.name → ∃ s ∈ slots, m = (s.name, s.json))
    (honce : (seen ++ (members.map Prod.fst).filter (· ∈ slots.map Slot.name)).Nodup) :
    readMembers (ofWrittenMembers members) (slots.map Slot.field) (found slots seen) =
      .ok (found slots (seen ++ members.map Prod.fst)) := by
  have hfields : (slots.map Slot.field).map (·.1.name) = slots.map Slot.name := by
    rw [List.map_map]
    rfl
  rw [readMembers_eq]
  induction members generalizing seen with
  | nil =>
    rw [List.map_nil, List.append_nil]
    rfl
  | cons member members ih =>
    obtain ⟨key, v⟩ := member
    obtain ⟨hmember, hrest⟩ := List.forall_mem_cons.1 hmembers
    rw [List.map_cons, List.filter_cons] at honce
    rw [ofWrittenMembers, List.map_cons, List.foldlM_cons]
    by_cases hkey : key ∈ slots.map Slot.name
    · -- the member of a field, which was not seen before
      obtain ⟨s, hs, he⟩ := hmember hkey
      obtain ⟨rfl, rfl⟩ := Prod.mk.inj he
      rw [if_pos (decide_eq_true hkey), List.perm_middle.nodup_iff, ← List.cons_append] at honce
      have hnew : s.name ∉ seen := fun hm =>
        (List.nodup_cons.1 honce).1 (List.mem_append_left _ hm)
      obtain ⟨before, after, rfl⟩ := List.append_of_mem hs
      rw [findMember_slot hnames (hholds s hs) hnew]
      refine (ih hrest honce).trans ?_
      refine congrArg Except.ok (found_congr fun t _ => ?_)
      simp only [List.mem_append, List.mem_cons, or_assoc, or_left_comm]
    · rw [if_neg (by simpa using hkey)] at honce
      rw [findMember_other (hfields ▸ hkey)]
      refine (ih hrest honce).trans ?_
      refine congrArg Except.ok (found_congr fun t ht => ?_)
      have hne : t.name ≠ key := fun he => hkey (he ▸ List.mem_map_of_mem ht)
      simp only [List.mem_append, List.mem_cons, hne, false_or]

theorem fill_found {seen : List String} (h : ∀ s ∈ slots, s.name ∉ seen → s.IsDefault) :
    fill (slots.map Slot.field) (found slots seen) = .ok (slots.map Slot.item) := by
  induction slots with
  | nil => rfl
  | cons s slots ih =>
    obtain ⟨hs, hslots⟩ := List.forall_mem_cons.1 h
    have hmore := ih hslots
    rw [found] at hmore ⊢
    rw [List.map_cons, List.map_cons, List.map_cons]
    by_cases hseen : s.name ∈ seen
    · rw [if_pos hseen, Slot.field, fill, hmore]
      rfl
    · have hdefault : s.rule.default = some s.item := hs hseen
      rw [if_neg hseen, Slot.field, fill]
      · simp only [hdefault, hmore]
        rfl
      · exact nofun

/-- **A record is read from an object** that has the members of its fields once, unless they hold
    their defaults, in any order and among others. -/
theorem read_object (hnames : (slots.map Slot.name).Nodup) (hholds : ∀ s ∈ slots, s.Holds)
    {members : List (String × Json)}
    (hmembers : ∀ m ∈ members, m.1 ∈ slots.map Slot.name → ∃ s ∈ slots, m = (s.name, s.json))
    (honce : ((members.map Prod.fst).filter (· ∈ slots.map Slot.name)).Nodup)
    (hmissing : ∀ s ∈ slots, s.name ∉ members.map Prod.fst → s.IsDefault) :
    read (ofWritten (.object members)) (.record (slots.map Slot.field)) =
      .ok (.record (slots.map Slot.item)) := by
  have hread := @readMembers_slots slots hnames hholds members [] hmembers honce
  rw [found_nil, List.nil_append] at hread
  rw [ofWritten, read, hread]
  simp only [bind, Except.bind, fill_found hmissing]
  rfl

/-! ## What is written -/

/-- The members that are written of a record. -/
def membersOf (slots : List Slot) : List (String × Json) :=
  (slots.filter fun s => !s.isOmitted).map fun s => (s.name, s.json)

theorem writeFields_eq :
    writeFields (slots.map Slot.item) (slots.map Slot.field) = membersOf slots := by
  induction slots with
  | nil => rfl
  | cons s slots ih =>
    obtain ⟨rule, shape, item⟩ := s
    rw [List.map_cons, List.map_cons, membersOf, List.filter_cons]
    rw [membersOf] at ih
    cases item with
    | absent =>
      rw [Slot.field, writeFields, ih, Slot.isOmitted]
      cases rule.omitted <;> rfl
    | text | flag | whole | list | record =>
      rw [Slot.field, writeFields, ih]
      · rfl
      · exact nofun

theorem write_record :
    write (.record (slots.map Slot.item)) (.record (slots.map Slot.field)) =
      .object (membersOf slots) := by
  rw [write, writeFields_eq]

theorem exists_of_mem_membersOf {m : String × Json} (h : m ∈ membersOf slots) :
    ∃ s ∈ slots, m = (s.name, s.json) := by
  obtain ⟨s, hs, rfl⟩ := List.mem_map.1 h
  exact ⟨s, (List.mem_filter.1 hs).1, rfl⟩

theorem nodup_membersOf (hnames : (slots.map Slot.name).Nodup) :
    ((membersOf slots).map Prod.fst).Nodup := by
  rw [membersOf, List.map_map]
  exact hnames.sublist ((List.filter_sublist).map Slot.name)

/-- **A record is read from its members**, in any order and among others. -/
theorem read_perm (hnames : (slots.map Slot.name).Nodup) (hholds : ∀ s ∈ slots, s.Holds)
    (homitted : ∀ s ∈ slots, s.isOmitted = true → s.IsDefault)
    {members others : List (String × Json)} (hothers : ∀ m ∈ others, m.1 ∉ slots.map Slot.name)
    (hperm : members.Perm (membersOf slots ++ others)) :
    read (ofWritten (.object members)) (.record (slots.map Slot.field)) =
      .ok (.record (slots.map Slot.item)) := by
  refine read_object hnames hholds (fun m hm hname => ?_) ?_ (fun s hs hmissing => ?_)
  · rcases List.mem_append.1 (hperm.mem_iff.1 hm) with hown | hother
    · exact exists_of_mem_membersOf hown
    · exact absurd hname (hothers m hother)
  · have hnone : (others.map Prod.fst).filter (· ∈ slots.map Slot.name) = [] := by
      refine List.filter_eq_nil_iff.2 fun name hname => ?_
      obtain ⟨m, hm, rfl⟩ := List.mem_map.1 hname
      simpa using hothers m hm
    rw [((hperm.map Prod.fst).filter _).nodup_iff, List.map_append, List.filter_append, hnone,
      List.append_nil]
    exact (nodup_membersOf hnames).filter _
  · refine homitted s hs (Classical.byContradiction fun hwritten => hmissing ?_)
    have hm : (s.name, s.json) ∈ membersOf slots :=
      List.mem_map.2 ⟨s, List.mem_filter.2 ⟨hs, by simpa using hwritten⟩, rfl⟩
    exact List.mem_map_of_mem (hperm.mem_iff.2 (List.mem_append_left _ hm))

/-! ## Lists of fields -/

/-- **A record is read from the list of its fields.** -/
theorem read_values (hholds : ∀ s ∈ slots, s.Holds) :
    read (ofWritten (.list (slots.map Slot.json))) (.record (slots.map Slot.field)) =
      .ok (.record (slots.map Slot.item)) := by
  have hfields : readFields (ofWrittenItems (slots.map Slot.json)) none (slots.map Slot.field) =
      .ok (slots.map Slot.item) := by
    induction slots with
    | nil => rfl
    | cons s slots ih =>
      obtain ⟨hs, hslots⟩ := List.forall_mem_cons.1 hholds
      rw [Slot.Holds] at hs
      rw [List.map_cons, List.map_cons, ofWrittenItems, Slot.field, readFields, hs, ih hslots]
      rfl
  rw [ofWritten, read, hfields]
  rfl

/-! ## Defaults -/

section

variable {fields : List (FieldRule × Shape)} {name : String} {i : Nat} {rule : FieldRule}
  {shape : Shape} {item : Item} {before : List (Option Item)}
  {member : Except Fault String × Json.Node} {members : List (Except Fault String × Json.Node)}

/-- A member of another field neither changes what was found of this one nor depends on it. -/
theorem findMember_set (hfield : fieldNamed? name fields = some (i, rule, shape))
    (hmember : member.1 ≠ .ok name) (before : List (Option Item)) (item : Option Item) :
    findMember fields (before.set i item) member =
      (findMember fields before member).map (·.set i item) ∧
    ∀ after, findMember fields before member = .ok after → after[i]? = before[i]? := by
  obtain ⟨key, node⟩ := member
  cases key with
  | error fault => exact ⟨rfl, nofun⟩
  | ok key =>
    simp only [findMember, bind, Except.bind]
    cases hkey : fieldNamed? key fields with
    | none =>
      cases hskip : node.skipFault? with
      | some fault => exact ⟨rfl, nofun⟩
      | none => exact ⟨rfl, fun after h => by cases h; rfl⟩
    | some field =>
      obtain ⟨j, rule', shape'⟩ := field
      -- at one place stands one field
      have hne : i ≠ j := by
        rintro rfl
        obtain ⟨hplace, hname⟩ := fieldNamed?_spec hfield
        obtain ⟨hplace', hname'⟩ := fieldNamed?_spec hkey
        cases hplace.symm.trans hplace'
        exact hmember (congrArg Except.ok (hname'.symm.trans hname))
      simp only [List.getElem?_set_ne hne]
      split
      · exact ⟨rfl, nofun⟩
      · cases orAbsent rule' node (read node shape') with
        | error fault => exact ⟨rfl, nofun⟩
        | ok item' =>
          refine ⟨congrArg Except.ok (List.set_comm _ _ hne), fun after h => ?_⟩
          cases h
          exact List.getElem?_set_ne hne.symm

theorem readMembers_set (hfield : fieldNamed? name fields = some (i, rule, shape))
    (hmembers : ∀ m ∈ members, m.1 ≠ .ok name) (before : List (Option Item))
    (item : Option Item) :
    readMembers members fields (before.set i item) =
      (readMembers members fields before).map (·.set i item) ∧
    ∀ after, readMembers members fields before = .ok after → after[i]? = before[i]? := by
  simp only [readMembers_eq]
  induction members generalizing before with
  | nil => exact ⟨rfl, fun after h => by cases h; rfl⟩
  | cons member members ih =>
    obtain ⟨hmember, hmembers⟩ := List.forall_mem_cons.1 hmembers
    obtain ⟨hset, hkept⟩ := findMember_set hfield hmember before item
    rw [List.foldlM_cons, List.foldlM_cons, hset]
    cases hfind : findMember fields before member with
    | error fault => exact ⟨rfl, nofun⟩
    | ok middle =>
      obtain ⟨hset', hkept'⟩ := ih hmembers middle
      exact ⟨hset', fun after h => (hkept' after h).trans (hkept middle hfind)⟩

theorem fill_set {found : List (Option Item)} (hplace : fields[i]? = some (rule, shape))
    (hdefault : rule.default = some item) (hfound : found[i]? = some none) :
    fill fields (found.set i (some item)) = fill fields found := by
  induction fields generalizing found i with
  | nil => cases hplace
  | cons field fields ih =>
    obtain ⟨rule', shape'⟩ := field
    cases found with
    | nil => cases hfound
    | cons first found =>
      cases i with
      | zero =>
        cases hplace
        cases hfound
        rw [List.set_cons_zero, fill, fill]
        · simp only [hdefault]
        · exact nofun
      | succ i =>
        rw [List.getElem?_cons_succ] at hplace hfound
        have hmore := ih hplace hfound
        rw [List.set_cons_succ]
        cases first with
        | some first => rw [fill, fill, hmore]
        | none =>
          rw [fill, fill, hmore]
          · exact nofun
          · exact nofun

/-- **A member that holds the default of its field may as well be missing.** -/
theorem read_default {node : Json.Node} (hfield : fieldNamed? name fields = some (i, rule, shape))
    (hdefault : rule.default = some item)
    (hholds : orAbsent rule node (read node shape) = .ok item)
    {earlier later : List (Except Fault String × Json.Node)}
    (hearlier : ∀ m ∈ earlier, m.1 ≠ .ok name) (hlater : ∀ m ∈ later, m.1 ≠ .ok name) :
    read (.object (earlier ++ (.ok name, node) :: later) none) (.record fields) =
      read (.object (earlier ++ later) none) (.record fields) := by
  have hplace := (fieldNamed?_spec hfield).1
  have hnothing : (fields.map fun _ => (none : Option Item))[i]? = some none := by
    rw [List.getElem?_map, hplace, Option.map_some]
  rw [read, read]
  simp only [readMembers_eq, List.foldlM_append, List.foldlM_cons, bind_assoc]
  simp only [← readMembers_eq]
  cases hread : readMembers earlier fields (fields.map fun _ => none) with
  | error fault => rfl
  | ok middle =>
    have hmiddle : middle[i]? = some none :=
      ((readMembers_set hfield hearlier _ none).2 middle hread).trans hnothing
    have hfind : findMember fields middle (.ok name, node) = .ok (middle.set i (some item)) := by
      simp only [findMember, bind, Except.bind, hfield, hmiddle, Option.getD_some,
        Option.isSome_none, Bool.false_eq_true, if_false, hholds]
      rfl
    obtain ⟨hset, hkept⟩ := readMembers_set hfield hlater middle (some item)
    simp only [bind, Except.bind, hfind, hset]
    cases hread' : readMembers later fields middle with
    | error fault => rfl
    | ok last =>
      have hlast : last[i]? = some none := (hkept last hread').trans hmiddle
      simp only [Except.map, fill_set hplace hdefault hlast]

end

end Shape
end LightningLottery
