/-
  Events as their data tells them.

  * `Wire.IsSent`: the text of a value is read as its JSON value, and that as the value.
  * `EventType.Writes`: the data of an event, and what it tells.
  * `EventType.Reads`: a payload that fits an event, and what it tells.
  * `EventType.Writes.reads`: an event that is written is read as itself.
-/
import LightningLottery.Proofs.Wire.RoundTrip

namespace LightningLottery

open Json (IsWord Exact maxDepth)

/-! ## Values in transit -/

namespace Shape

theorem exact_list {depth : Nat} {element : Shape} {items : List Item}
    (h : ∀ item ∈ items, (write item element).Exact depth) :
    (write (.list items) (.list element)).Exact (depth + 1) := by
  have hmap : writeItems items element = items.map fun item => write item element := by
    clear h
    induction items with
    | nil => rfl
    | cons item items ih => rw [writeItems, ih, List.map_cons]
  rw [write, hmap]
  exact .list (List.forall_mem_map.2 h)

theorem exact_word64 {depth : Nat} (n : UInt64) : (write (.ofWord64 n) .word64).Exact depth := by
  have h := n.toNat_lt
  exact .word ⟨by omega, by omega⟩

theorem exact_word32 {depth : Nat} (n : UInt32) : (write (.ofWord32 n) .word32).Exact depth := by
  have h := n.toNat_lt
  exact .word ⟨by omega, by omega⟩

theorem exact_signed64 {depth : Nat} (n : Int64) :
    (write (.ofSigned64 n) .signed64).Exact depth := by
  have hmin := n.le_toInt
  have hmax := n.toInt_lt
  exact .word ⟨by omega, by omega⟩

theorem exact_status {depth : Nat} (status : PaymentStatus) :
    (write (Wire.toItem status) (Wire.shape PaymentStatus)).Exact depth := by
  cases status <;> exact .word ⟨by decide, by decide⟩

theorem exact_ofOption {α : Type} {depth : Nat} {shape : Shape} {f : α → Item}
    (h : ∀ a, (write (f a) shape).Exact depth) (o : Option α) :
    (write (.ofOption f o) shape).Exact depth := by
  cases o with
  | none => exact .null
  | some a => exact h a

end Shape

open Shape

namespace Wire

/-- The text of a value is read as its JSON value, and that as the value. -/
structure IsSent (α : Type) [Wire α] : Prop where
  parse : ∀ a : α, Json.parse (utf8 (encode a)) = .ok (toJson a)
  ofJson : ∀ a : α, ofJson (toJson a) = .ok a

variable {α : Type} [Wire α]

namespace IsRecord

theorem exact (h : IsRecord α) {a : α} {depth : Nat} (hslots : ∀ s ∈ slots a, s.json.Exact depth) :
    (toJson a).Exact (depth + 1) := by
  rw [h.toJson_eq a]
  refine .object (nodup_membersOf (h.nodup_slots a)) fun member hmember => ?_
  obtain ⟨s, hs, rfl⟩ := exists_of_mem_membersOf hmember
  exact hslots s hs

theorem isSent (h : IsRecord α) (hexact : ∀ a : α, (toJson a).Exact maxDepth) : IsSent α where
  parse a := (hexact a).parse_compact
  ofJson a := by
    have hread : read (Json.Node.ofValue (toJson a)) (shape α) = .ok (toItem a) :=
      (hexact a).ofWritten_eq ▸ h.readsBack a
    rw [ofJson, hread]
    exact congrArg Except.ok (h.ofItem_toItem a)

end IsRecord

theorem exact_winner {depth : Nat} (w : Winner) : (toJson w).Exact (depth + 1) :=
  isRecord_winner.exact (List.forall_iff_forall_mem.1
    ⟨.text w.publicKey, exact_word64 w.prizes, exact_word64 w.ticket, .flag w.expired⟩)

theorem isSent_lotteryChange : IsSent LotteryChange :=
  isRecord_lotteryChange.isSent fun c => by
    have hwinners (ws : List Winner) :
        (write (.list (ws.map toItem)) (.list (shape Winner))).Exact 126 := by
      refine exact_list (List.forall_mem_map.2 fun w _ => ?_)
      exact exact_winner w
    exact isRecord_lotteryChange.exact (List.forall_iff_forall_mem.1
      ⟨exact_ofOption hwinners c.winners, exact_ofOption exact_signed64 c.capacity,
       exact_ofOption exact_signed64 c.prizePool, exact_ofOption exact_word32 c.nextHeight,
       exact_ofOption exact_word32 c.blockHeight⟩)

theorem isSent_betOutcome : IsSent BetOutcome :=
  isRecord_betOutcome.isSent fun o => isRecord_betOutcome.exact (List.forall_iff_forall_mem.1
    ⟨.text o.error, exact_word64 o.paymentId, .text o.publicKey, exact_word64 o.amount,
     exact_status o.status⟩)

theorem isSent_withdrawalOutcome : IsSent WithdrawalOutcome :=
  isRecord_withdrawalOutcome.isSent fun o =>
    isRecord_withdrawalOutcome.exact (List.forall_iff_forall_mem.1
      ⟨.text o.error, exact_word64 o.paymentId, exact_status o.status⟩)

end Wire

/-! ## Events -/

namespace EventType

/-- The data of an event, its value, and the end of a payment if the event tells one. -/
inductive Writes : EventType → String → Json → Option PaymentOutcome → Prop
  | info (o : LotteryChange) : Writes .info (Wire.encode o) (Wire.toJson o) none
  | invoices (o : BetOutcome) :
    Writes .invoices (Wire.encode o) (Wire.toJson o) (some ⟨o.paymentId, o.status, o.error⟩)
  | payments (o : WithdrawalOutcome) :
    Writes .payments (Wire.encode o) (Wire.toJson o) (some ⟨o.paymentId, o.status, o.error⟩)

/-- A payload that fits an event: the value that is read, and the end of a payment if the event
    tells one. -/
inductive Reads (payload : Json) : EventType → Json → Option PaymentOutcome → Prop
  | info {o : LotteryChange} (h : Wire.ofJson payload = .ok o) :
    Reads payload .info (Wire.toJson o) none
  | invoices {o : BetOutcome} (h : Wire.ofJson payload = .ok o) :
    Reads payload .invoices (Wire.toJson o) (some ⟨o.paymentId, o.status, o.error⟩)
  | payments {o : WithdrawalOutcome} (h : Wire.ofJson payload = .ok o) :
    Reads payload .payments (Wire.toJson o) (some ⟨o.paymentId, o.status, o.error⟩)

/-- **An event that is written is read as itself.** -/
theorem Writes.reads {event : EventType} {data : String} {value : Json}
    {told : Option PaymentOutcome} (h : event.Writes data value told) :
    Json.parse (utf8 data) = .ok value ∧ Reads value event value told := by
  cases h with
  | info o => exact ⟨Wire.isSent_lotteryChange.parse o, .info (Wire.isSent_lotteryChange.ofJson o)⟩
  | invoices o => exact ⟨Wire.isSent_betOutcome.parse o, .invoices (Wire.isSent_betOutcome.ofJson o)⟩
  | payments o =>
    exact ⟨Wire.isSent_withdrawalOutcome.parse o,
      .payments (Wire.isSent_withdrawalOutcome.ofJson o)⟩

end EventType
end LightningLottery
