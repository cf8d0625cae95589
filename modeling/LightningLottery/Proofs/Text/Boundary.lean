/-
  Places at which a text can be cut, told by its bytes.

  * `exists_append_of_le`: of two starts of a text, one is a start of the other.
  * `Utf8.isBoundary`: whether a place is a boundary, which the byte behind it decides.
    `Utf8.isBoundary_append` and `Utf8.not_isBoundary_inside`: the places between characters are
    boundaries, and those inside a character are none.
  * `Utf8.boundaryBelow?`: the search for a boundary, from a place backwards;
    `Utf8.boundaryBelow?_eq_some`: it ends at the first one.
  * `Utf8.upTo?`: what stands before a boundary; `Utf8.upTo?_append`: it is the text there.
-/
import LightningLottery.Proofs.Text.Utf8

namespace LightningLottery

theorem utf8_append (s t : String) : utf8 (s ++ t) = utf8 s ++ utf8 t := by
  simp only [utf8, String.toList_append, List.flatMap_append]

theorem utf8_cons (c : Char) (cs : List Char) :
    utf8 (String.ofList (c :: cs)) = String.utf8EncodeChar c ++ utf8 (String.ofList cs) := by
  simp only [utf8, String.toList_ofList, List.flatMap_cons]

/-- Of two starts of a text, the one that is no longer is a start of the other. -/
theorem exists_append_of_le {front back kept left : String} (h : front ++ back = kept ++ left)
    (hle : front.utf8ByteSize ≤ kept.utf8ByteSize) : ∃ more, front ++ more = kept := by
  simp only [← String.toList_inj, String.toList_append] at h ⊢
  rcases List.append_eq_append_iff.1 h with ⟨more, hkept, -⟩ | ⟨more, hfront, -⟩
  · exact ⟨String.ofList more, by rw [String.toList_ofList, hkept]⟩
  · -- the other start is not shorter in bytes, so nothing stands between their ends
    have hsize : front.utf8ByteSize = kept.utf8ByteSize + (String.ofList more).utf8ByteSize := by
      rw [← String.utf8ByteSize_append, ← String.ofList_toList (s := front), hfront,
        String.ofList_append, String.ofList_toList]
    have hnone : String.ofList more = "" := String.utf8ByteSize_eq_zero_iff.1 (by omega)
    have hmore : more = [] := by
      rw [← String.toList_ofList (l := more), hnone, String.toList_empty]
    exact ⟨"", by rw [hfront, hmore, List.append_nil, String.toList_empty, List.append_nil]⟩

namespace Utf8

/-! ## Boundaries -/

/-- Whether a place in the bytes of a text is a boundary: the start, the end, and before each byte
    that does not continue a character. -/
def isBoundary (bs : Bytes) (place : Nat) : Bool :=
  place == 0 || match bs[place]? with
    | some b => !isTail b
    | none => place == bs.length

/-- The first byte of a character continues none, and all others do. -/
theorem exists_encode_eq (c : Char) : ∃ lead tails, String.utf8EncodeChar c = lead :: tails ∧
    isTail lead = false ∧ ∀ b ∈ tails, isTail b = true := by
  have hscalar := scalar c
  have hlead {k : Nat} (hk : k < 128 ∨ 192 ≤ k) (hlt : k < 256) :
      isTail (UInt8.ofNat k) = false := by
    rw [← Bool.not_eq_true, isTail_iff, toNat_ofNat hlt]
    omega
  have htails (ks : List Nat) : ∀ b ∈ ks.map fun k => UInt8.ofNat (k % 64 + 128),
      isTail b = true := by
    intro b hb
    obtain ⟨k, -, rfl⟩ := List.mem_map.1 hb
    exact isTail_ofNat k
  unfold String.utf8EncodeChar
  generalize c.val.toNat = n at hscalar
  simp only
  split_ifs with h1 h2 h3
  · exact ⟨_, _, rfl, hlead (by omega) (by omega), htails []⟩
  · exact ⟨_, _, rfl, hlead (by omega) (by omega), htails [n]⟩
  · exact ⟨_, _, rfl, hlead (by omega) (by omega), htails [n / 64, n]⟩
  · exact ⟨_, _, rfl, hlead (by omega) (by omega), htails [n / 4096, n / 64, n]⟩

/-- **Where a text is put together from two, there is a boundary.** -/
theorem isBoundary_append (s t : String) :
    isBoundary (utf8 (s ++ t)) s.utf8ByteSize = true := by
  rw [isBoundary, utf8_append, ← length_utf8, List.getElem?_append_right (Nat.le_refl _),
    Nat.sub_self, List.length_append, utf8, utf8]
  cases t.toList with
  | nil => simp
  | cons c cs =>
    obtain ⟨lead, tails, hbytes, hlead, -⟩ := exists_encode_eq c
    simp [hbytes, hlead]

/-- **Inside a character there is none.** -/
theorem not_isBoundary_inside (s : String) (c : Char) (cs : List Char) {place : Nat}
    (hlow : s.utf8ByteSize < place) (hhigh : place < s.utf8ByteSize + c.utf8Size) :
    isBoundary (utf8 (s ++ String.ofList (c :: cs))) place = false := by
  obtain ⟨lead, tails, hbytes, -, htails⟩ := exists_encode_eq c
  obtain ⟨k, rfl⟩ := Nat.exists_eq_add_of_lt hlow
  have hlength : tails.length + 1 = c.utf8Size := by
    rw [← String.length_utf8EncodeChar, hbytes, List.length_cons]
  have hk : k < tails.length := by omega
  have hbyte : (utf8 (s ++ String.ofList (c :: cs)))[s.utf8ByteSize + k + 1]? = some tails[k] := by
    rw [utf8_append, utf8_cons, hbytes, ← length_utf8, Nat.add_assoc,
      List.getElem?_append_right (Nat.le_add_right _ _), Nat.add_sub_cancel_left, List.cons_append,
      List.getElem?_cons_succ, List.getElem?_append_left hk, List.getElem?_eq_getElem hk]
  have htail := htails _ (List.getElem_mem hk)
  simp only [isBoundary, hbyte, htail, Bool.not_true, Bool.or_false, beq_eq_false_iff_ne]
  omega

/-! ## Searching -/

/-- The search for a boundary, from a place backwards. It has failed if it finds none at the start
    either. -/
def boundaryBelow? (bs : Bytes) : Nat → Option Nat
  | 0 => if isBoundary bs 0 then some 0 else none
  | place + 1 =>
    if isBoundary bs (place + 1) then some (place + 1) else boundaryBelow? bs place

theorem boundaryBelow?_of_isBoundary {bs : Bytes} {place : Nat}
    (h : isBoundary bs place = true) : boundaryBelow? bs place = some place := by
  cases place with
  | zero => rw [boundaryBelow?, if_pos h]
  | succ place => rw [boundaryBelow?, if_pos h]

/-- **The search ends at the first boundary on its way.** -/
theorem boundaryBelow?_eq_some {bs : Bytes} {stop place : Nat} (hle : stop ≤ place)
    (hstop : isBoundary bs stop = true)
    (hskipped : ∀ k, stop < k → k ≤ place → isBoundary bs k = false) :
    boundaryBelow? bs place = some stop := by
  induction place with
  | zero =>
    cases Nat.le_zero.1 hle
    exact boundaryBelow?_of_isBoundary hstop
  | succ place ih =>
    rcases Nat.eq_or_lt_of_le hle with rfl | hlt
    · exact boundaryBelow?_of_isBoundary hstop
    · have hnone := hskipped (place + 1) hlt (Nat.le_refl _)
      rw [boundaryBelow?, if_neg (Bool.eq_false_iff.1 hnone)]
      exact ih (Nat.le_of_lt_succ hlt) fun k hk hkp => hskipped k hk (Nat.le_succ_of_le hkp)

/-! ## Cutting -/

/-- The text before a place in the bytes of another, if the place is a boundary. -/
def upTo? (bs : Bytes) (place : Nat) : Option String :=
  if isBoundary bs place then (decode (bs.take place)).toOption else none

/-- **What stands before a boundary is read as it was written.** -/
theorem upTo?_append (s t : String) : upTo? (utf8 (s ++ t)) s.utf8ByteSize = some s := by
  rw [upTo?, if_pos (isBoundary_append s t), utf8_append, ← length_utf8, List.take_left,
    decode_utf8]
  rfl

end Utf8
end LightningLottery
