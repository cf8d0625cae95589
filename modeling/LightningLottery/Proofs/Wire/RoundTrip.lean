/-
  Types that travel as JSON, and come back as they were sent.

  * `Wire.decode_compact`: what is decoded from the text of a JSON value.
  * `Wire.IsRecord`: the laws of a type that travels as a record.
  * `Wire.RoundTrips`: its values come back from their text, from their members in any order and
    among others, and from the list of their fields, and a default may as well be missing.
  * `Wire.IsRecord.roundTrips`: the laws are enough for all of that.
  * `Wire.all_roundTrip`: so it is with the events, the invoice and the identity.
-/
import LightningLottery.Proofs.Wire.Record
import LightningLottery.Wire.Event

namespace LightningLottery

open Json (Fault IsWord)
open Json.Node (ofWritten)

/-! ## Items of fields -/

namespace Item

theorem toWord64_ofWord64 (n : UInt64) : (ofWord64 n).toWord64 = n := by
  rw [ofWord64, toWord64, toInt, Int.toNat_natCast, UInt64.ofNat_toNat]

theorem toWord32_ofWord32 (n : UInt32) : (ofWord32 n).toWord32 = n := by
  rw [ofWord32, toWord32, toInt, Int.toNat_natCast, UInt32.ofNat_toNat]

theorem toSigned64_ofSigned64 (n : Int64) : (ofSigned64 n).toSigned64 = n := by
  rw [ofSigned64, toSigned64, toInt, Int64.ofInt_toInt]

theorem toOption_ofOption {α : Type} {f : Item → α} {g : α → Item} (hf : ∀ a, f (g a) = a)
    (hg : ∀ a, g a ≠ .absent) (o : Option α) : toOption f (ofOption g o) = o := by
  cases o with
  | none => rfl
  | some a =>
    rw [ofOption, toOption, hf]
    exact hg a

end Item

namespace Shape

theorem readsBack_word64 (n : UInt64) : ReadsBack .word64 (.ofWord64 n) := by
  have h := n.toNat_lt
  exact readsBack_whole ⟨by omega, by omega⟩ (by omega) (by omega)

theorem readsBack_word32 (n : UInt32) : ReadsBack .word32 (.ofWord32 n) := by
  have h := n.toNat_lt
  exact readsBack_whole ⟨by omega, by omega⟩ (by omega) (by omega)

theorem readsBack_signed64 (n : Int64) : ReadsBack .signed64 (.ofSigned64 n) := by
  have hmin := n.le_toInt
  have hmax := n.toInt_lt
  exact readsBack_whole ⟨by omega, by omega⟩ (by omega) (by omega)

theorem readsBack_status (status : PaymentStatus) :
    ReadsBack (Wire.shape PaymentStatus) (Wire.toItem status) := by
  cases status <;> exact readsBack_whole ⟨by decide, by decide⟩ (by decide) (by decide)

end Shape

namespace Slot

theorem holds_ofOption {α : Type} (name : String) {shape : Shape} {f : α → Item}
    (h : ∀ a, shape.ReadsBack (f a)) (o : Option α) :
    Holds ⟨.omissible name, shape, .ofOption f o⟩ := by
  cases o with
  | none => exact holds_absent rfl rfl
  | some a => exact holds_of_readsBack (h a)

theorem holds_default_omissible (name : String) (shape : Shape) :
    ∀ item ∈ (FieldRule.omissible name).default, Holds ⟨.omissible name, shape, item⟩ := by
  rintro _ ⟨⟩
  exact holds_absent rfl rfl

theorem holds_default (name : String) {shape : Shape} {default : Item}
    (h : shape.ReadsBack default) :
    ∀ item ∈ (FieldRule.defaulted name default).default,
      Holds ⟨.defaulted name default, shape, item⟩ := by
  rintro _ ⟨⟩
  exact holds_of_readsBack h

end Slot

namespace Wire

theorem decode_compact {α : Type} [Wire α] (v : Json) :
    (decode (utf8 v.compact) : Except Fault α) =
      (Shape.read (ofWritten v) (shape α)).map ofItem := by
  simp only [decode, Json.parse_compact, bind, Except.bind]
  cases Shape.read (ofWritten v) (shape α) <;> rfl

/-! ## Records -/

/-- The fields of a type that travels as a record. -/
def fields (α : Type) [Wire α] : List (FieldRule × Shape) :=
  match shape α with
  | .record fields => fields
  | _ => []

variable {α : Type} [Wire α]

/-- What the fields of a value hold. -/
def items (a : α) : List Item :=
  match toItem a with
  | .record items => items
  | _ => []

/-- The fields of a value, with what they hold. -/
def slots (a : α) : List Slot :=
  List.zipWith (fun field item => ⟨field.1, field.2, item⟩) (fields α) (items a)

/-- The JSON values of all fields of a value, in their order. -/
def values (a : α) : List Json := (slots a).map Slot.json

/-- The laws of a type that travels as a record. -/
structure IsRecord (α : Type) [Wire α] : Prop where
  shape_eq : shape α = .record (fields α)
  toItem_eq : ∀ a : α, toItem a = .record (items a)
  length_eq : ∀ a : α, (items a).length = (fields α).length
  /-- No two fields have one name. -/
  names : ((fields α).map (·.1.name)).Nodup
  holds : ∀ a : α, ∀ s ∈ slots a, s.Holds
  /-- A field that is left out in writing holds nothing when it is missing. -/
  omitted : ∀ field ∈ fields α, field.1.omitted = true → field.1.default = some .absent
  defaults : ∀ field ∈ fields α, ∀ item ∈ field.1.default, Slot.Holds ⟨field.1, field.2, item⟩
  ofItem_toItem : ∀ a : α, ofItem (toItem a) = a

/-- Values of a type that travels as a record come back. -/
structure RoundTrips (α : Type) [Wire α] : Prop where
  /-- The text of a value is decoded as the value. -/
  text : ∀ a : α, decode (utf8 (encode a)) = .ok a
  /-- So is any object with the same members, in any order and among members of other names. -/
  members : ∀ a : α, ∃ own, toJson a = .object own ∧ ∀ others members : List (String × Json),
    (∀ m ∈ others, m.1 ∉ (fields α).map (·.1.name)) → members.Perm (own ++ others) →
      decode (utf8 (Json.object members).compact) = .ok a
  /-- So is the list of all fields. -/
  values : ∀ a : α, decode (utf8 (Json.list (values a)).compact) = .ok a
  /-- An object without a field that has a default is decoded as if the default were written. -/
  defaults : ∀ field ∈ fields α, ∀ item ∈ field.1.default,
    ∀ earlier later : List (String × Json), (∀ m ∈ earlier ++ later, m.1 ≠ field.1.name) →
      (decode (utf8 (Json.object (earlier ++ later)).compact) : Except Fault α) =
        decode (utf8 (Json.object
          (earlier ++ (field.1.name, Shape.write item field.2) :: later)).compact)

namespace IsRecord

theorem map_slots (h : IsRecord α) (a : α) :
    (slots a).map Slot.field = fields α ∧ (slots a).map Slot.item = items a := by
  have hzip : ∀ (fields : List (FieldRule × Shape)) (items : List Item),
      items.length = fields.length →
        (List.zipWith (fun field item => (⟨field.1, field.2, item⟩ : Slot)) fields items).map
            Slot.field = fields ∧
          (List.zipWith (fun field item => (⟨field.1, field.2, item⟩ : Slot)) fields items).map
            Slot.item = items := by
    intro fields
    induction fields with
    | nil => exact fun items hlength => ⟨rfl, (List.eq_nil_of_length_eq_zero hlength).symm⟩
    | cons field fields ih =>
      intro items hlength
      cases items with
      | nil => cases hlength
      | cons item items =>
        obtain ⟨hfields, hitems⟩ := ih items (Nat.succ.inj hlength)
        exact ⟨congrArg (field :: ·) hfields, congrArg (item :: ·) hitems⟩
  exact hzip (fields α) (items a) (h.length_eq a)

theorem map_name_slots (h : IsRecord α) (a : α) :
    (slots a).map Slot.name = (fields α).map (·.1.name) := by
  rw [← (h.map_slots a).1, List.map_map]
  rfl

theorem nodup_slots (h : IsRecord α) (a : α) : ((slots a).map Slot.name).Nodup := by
  rw [h.map_name_slots a]
  exact h.names

theorem toJson_eq (h : IsRecord α) (a : α) :
    toJson a = .object (Shape.membersOf (slots a)) := by
  rw [toJson, h.toItem_eq, h.shape_eq, ← (h.map_slots a).1, ← (h.map_slots a).2,
    Shape.write_record]

/-- **A value is read from its members**, in any order and among others. -/
theorem read_perm (h : IsRecord α) (a : α) {others members : List (String × Json)}
    (hothers : ∀ m ∈ others, m.1 ∉ (fields α).map (·.1.name))
    (hperm : members.Perm (Shape.membersOf (slots a) ++ others)) :
    Shape.read (ofWritten (.object members)) (shape α) = .ok (toItem a) := by
  have hdefault : ∀ s ∈ slots a, s.isOmitted = true → s.IsDefault := by
    intro s hs homitted
    have hfield : s.field ∈ fields α := (h.map_slots a).1 ▸ List.mem_map_of_mem hs
    unfold Slot.isOmitted at homitted
    split at homitted
    · next hitem => rw [Slot.IsDefault, hitem]; exact h.omitted _ hfield homitted
    · cases homitted
  have hread := Shape.read_perm (h.nodup_slots a) (h.holds a) hdefault
    (fun m hm => h.map_name_slots a ▸ hothers m hm) hperm
  rw [(h.map_slots a).1, (h.map_slots a).2, ← h.shape_eq, ← h.toItem_eq] at hread
  exact hread

/-- A value is read back where it is part of another one. -/
theorem readsBack (h : IsRecord α) (a : α) : (shape α).ReadsBack (toItem a) := by
  have hread := @read_perm _ _ h a [] _ nofun (by rw [List.append_nil])
  rw [← h.toJson_eq a] at hread
  exact hread

/-- **The laws of `IsRecord` imply `RoundTrips`.** -/
theorem roundTrips (h : IsRecord α) : RoundTrips α where
  text a := by
    rw [encode, decode_compact, toJson, h.readsBack a]
    exact congrArg Except.ok (h.ofItem_toItem a)
  members a := by
    refine ⟨_, h.toJson_eq a, fun others members hothers hperm => ?_⟩
    rw [decode_compact, h.read_perm a hothers hperm]
    exact congrArg Except.ok (h.ofItem_toItem a)
  values a := by
    have hread := Shape.read_values (h.holds a)
    rw [(h.map_slots a).1, (h.map_slots a).2, ← h.shape_eq, ← h.toItem_eq] at hread
    rw [decode_compact, values, hread]
    exact congrArg Except.ok (h.ofItem_toItem a)
  defaults := by
    rintro ⟨rule, shape⟩ hfield item hitem earlier later hother
    obtain ⟨i, hplace⟩ := Shape.exists_fieldNamed? h.names hfield
    have hkeys : ∀ members : List (String × Json), (∀ m ∈ members, m.1 ≠ rule.name) →
        ∀ m ∈ Json.Node.ofWrittenMembers members, m.1 ≠ .ok rule.name := by
      intro members hmembers m hm
      rw [Json.Node.ofWrittenMembers_eq] at hm
      obtain ⟨member, hmember, rfl⟩ := List.mem_map.1 hm
      exact fun he => hmembers member hmember (Except.ok.inj he)
    obtain ⟨hearlier, hlater⟩ := List.forall_mem_append.1 hother
    have hread := Shape.read_default hplace hitem (h.defaults _ hfield item hitem)
      (hkeys earlier hearlier) (hkeys later hlater)
    have htree (members : List (String × Json)) :
        ofWritten (.object members) = .object (Json.Node.ofWrittenMembers members) none := rfl
    simp only [Json.Node.ofWrittenMembers_eq] at hread
    rw [decode_compact, decode_compact, h.shape_eq, htree, htree]
    simp only [Json.Node.ofWrittenMembers_eq, List.map_append, List.map_cons]
    exact congrArg (Except.map ofItem) hread.symm

end IsRecord

/-! ## The types that travel -/

open Slot (holds_of_readsBack holds_ofOption holds_default holds_default_omissible)
open Shape (readsBack_text readsBack_flag readsBack_word64 readsBack_word32 readsBack_signed64
  readsBack_status readsBack_list)

theorem ofItem_toItem_status (status : PaymentStatus) : ofItem (toItem status) = status := by
  cases status <;> rfl

theorem isRecord_winner : IsRecord Winner where
  shape_eq := rfl
  toItem_eq _ := rfl
  length_eq _ := rfl
  names := by decide
  holds w := List.forall_iff_forall_mem.1
    ⟨holds_of_readsBack (readsBack_text w.publicKey),
     holds_of_readsBack (readsBack_word64 w.prizes),
     holds_of_readsBack (readsBack_word64 w.ticket),
     holds_of_readsBack (readsBack_flag w.expired)⟩
  omitted := List.forall_iff_forall_mem.1 ⟨nofun, nofun, nofun, nofun⟩
  defaults := List.forall_iff_forall_mem.1
    ⟨holds_default _ (readsBack_text ""), holds_default _ (readsBack_word64 0),
     holds_default _ (readsBack_word64 0), holds_default _ (readsBack_flag false)⟩
  ofItem_toItem w := by
    show Winner.mk w.publicKey (Item.ofWord64 w.prizes).toWord64 (Item.ofWord64 w.ticket).toWord64
      w.expired = w
    rw [Item.toWord64_ofWord64, Item.toWord64_ofWord64]

theorem isRecord_bet : IsRecord Bet where
  shape_eq := rfl
  toItem_eq _ := rfl
  length_eq _ := rfl
  names := by decide
  holds b := List.forall_iff_forall_mem.1
    ⟨holds_of_readsBack (readsBack_text b.publicKey),
     holds_of_readsBack (readsBack_word64 b.index),
     holds_of_readsBack (readsBack_word64 b.tickets)⟩
  omitted := List.forall_iff_forall_mem.1 ⟨nofun, nofun, nofun⟩
  defaults := List.forall_iff_forall_mem.1
    ⟨holds_default _ (readsBack_text ""), holds_default _ (readsBack_word64 0),
     holds_default _ (readsBack_word64 0)⟩
  ofItem_toItem b := by
    show Bet.mk b.publicKey (Item.ofWord64 b.index).toWord64 (Item.ofWord64 b.tickets).toWord64 = b
    rw [Item.toWord64_ofWord64, Item.toWord64_ofWord64]

/-- Lists of winners are read back, as every winner is. -/
theorem readsBack_winners (ws : List Winner) :
    (Shape.list (shape Winner)).ReadsBack (.list (ws.map toItem)) := by
  refine readsBack_list fun item hitem => ?_
  obtain ⟨w, -, rfl⟩ := List.mem_map.1 hitem
  exact isRecord_winner.readsBack w

theorem winners_toItem (ws : List Winner) :
    (Item.list (ws.map toItem)).toList.map ofItem = ws := by
  rw [Item.toList, List.map_map]
  exact (List.map_congr_left fun w _ => isRecord_winner.ofItem_toItem w).trans (List.map_id ws)

theorem isRecord_lotteryChange : IsRecord LotteryChange where
  shape_eq := rfl
  toItem_eq _ := rfl
  length_eq _ := rfl
  names := by decide
  holds c := List.forall_iff_forall_mem.1
    ⟨holds_ofOption _ readsBack_winners c.winners, holds_ofOption _ readsBack_signed64 c.capacity,
     holds_ofOption _ readsBack_signed64 c.prizePool,
     holds_ofOption _ readsBack_word32 c.nextHeight,
     holds_ofOption _ readsBack_word32 c.blockHeight⟩
  omitted := List.forall_iff_forall_mem.1
    ⟨fun _ => rfl, fun _ => rfl, fun _ => rfl, fun _ => rfl, fun _ => rfl⟩
  defaults := List.forall_iff_forall_mem.1
    ⟨holds_default_omissible _ _, holds_default_omissible _ _, holds_default_omissible _ _,
     holds_default_omissible _ _, holds_default_omissible _ _⟩
  ofItem_toItem c := by
    have hwinners := Item.toOption_ofOption (f := fun ws => ws.toList.map ofItem)
      (g := fun ws => .list (ws.map toItem)) winners_toItem nofun c.winners
    have hsigned (n : Option Int64) : Item.toOption Item.toSigned64 (.ofOption .ofSigned64 n) = n :=
      Item.toOption_ofOption Item.toSigned64_ofSigned64 nofun n
    have hword (n : Option UInt32) : Item.toOption Item.toWord32 (.ofOption .ofWord32 n) = n :=
      Item.toOption_ofOption Item.toWord32_ofWord32 nofun n
    show LotteryChange.mk (Item.toOption _ (Item.ofOption _ c.winners))
      (Item.toOption _ (Item.ofOption _ c.capacity)) (Item.toOption _ (Item.ofOption _ c.prizePool))
      (Item.toOption _ (Item.ofOption _ c.nextHeight))
      (Item.toOption _ (Item.ofOption _ c.blockHeight)) = c
    rw [hwinners, hsigned, hsigned, hword, hword]

theorem isRecord_betOutcome : IsRecord BetOutcome where
  shape_eq := rfl
  toItem_eq _ := rfl
  length_eq _ := rfl
  names := by decide
  holds o := List.forall_iff_forall_mem.1
    ⟨holds_of_readsBack (readsBack_text o.error), holds_of_readsBack (readsBack_word64 o.paymentId),
     holds_of_readsBack (readsBack_text o.publicKey), holds_of_readsBack (readsBack_word64 o.amount),
     holds_of_readsBack (readsBack_status o.status)⟩
  omitted := List.forall_iff_forall_mem.1 ⟨nofun, nofun, nofun, nofun, nofun⟩
  defaults := List.forall_iff_forall_mem.1
    ⟨holds_default _ (readsBack_text ""), holds_default _ (readsBack_word64 0),
     holds_default _ (readsBack_text ""), holds_default _ (readsBack_word64 0),
     holds_default _ (readsBack_status .failed)⟩
  ofItem_toItem o := by
    show BetOutcome.mk o.error (Item.ofWord64 o.paymentId).toWord64 o.publicKey
      (Item.ofWord64 o.amount).toWord64 (ofItem (toItem o.status)) = o
    rw [Item.toWord64_ofWord64, Item.toWord64_ofWord64, ofItem_toItem_status]

theorem isRecord_withdrawalOutcome : IsRecord WithdrawalOutcome where
  shape_eq := rfl
  toItem_eq _ := rfl
  length_eq _ := rfl
  names := by decide
  holds o := List.forall_iff_forall_mem.1
    ⟨holds_of_readsBack (readsBack_text o.error), holds_of_readsBack (readsBack_word64 o.paymentId),
     holds_of_readsBack (readsBack_status o.status)⟩
  omitted := List.forall_iff_forall_mem.1 ⟨nofun, nofun, nofun⟩
  defaults := List.forall_iff_forall_mem.1
    ⟨holds_default _ (readsBack_text ""), holds_default _ (readsBack_word64 0),
     holds_default _ (readsBack_status .failed)⟩
  ofItem_toItem o := by
    show WithdrawalOutcome.mk o.error (Item.ofWord64 o.paymentId).toWord64
      (ofItem (toItem o.status)) = o
    rw [Item.toWord64_ofWord64, ofItem_toItem_status]

theorem isRecord_invoice : IsRecord Invoice where
  shape_eq := rfl
  toItem_eq _ := rfl
  length_eq _ := rfl
  names := by decide
  holds i := List.forall_iff_forall_mem.1
    ⟨holds_of_readsBack (readsBack_text i.paymentHash),
     holds_of_readsBack (readsBack_word64 i.amountSat)⟩
  omitted := List.forall_iff_forall_mem.1 ⟨nofun, nofun⟩
  defaults := List.forall_iff_forall_mem.1 ⟨nofun, nofun⟩
  ofItem_toItem i := by
    show Invoice.mk i.paymentHash (Item.ofWord64 i.amountSat).toWord64 = i
    rw [Item.toWord64_ofWord64]

theorem isRecord_identity : IsRecord Identity where
  shape_eq := rfl
  toItem_eq _ := rfl
  length_eq _ := rfl
  names := by decide
  holds i := List.forall_iff_forall_mem.1
    ⟨holds_of_readsBack (readsBack_text i.privateKey),
     holds_of_readsBack (readsBack_text i.publicKey),
     holds_of_readsBack (readsBack_text i.nickname)⟩
  omitted := List.forall_iff_forall_mem.1 ⟨nofun, nofun, nofun⟩
  defaults := List.forall_iff_forall_mem.1
    ⟨holds_default _ (readsBack_text ""), holds_default _ (readsBack_text ""),
     holds_default _ (readsBack_text "")⟩
  ofItem_toItem _ := rfl

/-- **All values are decoded from what they are encoded as**: the status of a payment, and the
    records with all that `RoundTrips` says. -/
theorem all_roundTrip :
    (∀ status : PaymentStatus, decode (utf8 (encode status)) = .ok status) ∧
      RoundTrips Winner ∧ RoundTrips Bet ∧ RoundTrips LotteryChange ∧ RoundTrips BetOutcome ∧
      RoundTrips WithdrawalOutcome ∧ RoundTrips Invoice ∧ RoundTrips Identity := by
  refine ⟨fun status => ?_, isRecord_winner.roundTrips, isRecord_bet.roundTrips,
    isRecord_lotteryChange.roundTrips, isRecord_betOutcome.roundTrips,
    isRecord_withdrawalOutcome.roundTrips, isRecord_invoice.roundTrips,
    isRecord_identity.roundTrips⟩
  rw [encode, decode_compact, toJson, readsBack_status]
  exact congrArg Except.ok (ofItem_toItem_status status)

end Wire
end LightningLottery
