/-
  Numbers and their digits, the first digit counting most.

  * `foldl_eq_ofDigits`: reading digits one by one gives the number that they denote.
  * `foldl_decimal`, `decimal_injective`: a number is read back from its decimal digits.
  * `decimal_eq_toDigits`, `decimalText_eq_toString`: these are the digits of its usual text.
  * `hexNumber_eq`, `hexNumber_hexEncode`: the number of hexadecimal digits, and that of bytes.
  * `bigEndian_lt`, `exists_bigEndian`: the numbers that bytes denote.
-/
import LightningLottery.Curve.Modular
import LightningLottery.Proofs.Text.KeyText
import LightningLottery.Text.Grouped
import Mathlib

namespace LightningLottery

/-! ## Any radix -/

theorem foldl_eq_ofDigits {α : Type} (radix : Nat) (value : α → Nat) (digits : List α) :
    digits.foldl (fun n d => n * radix + value d) 0 =
      Nat.ofDigits radix (digits.reverse.map value) := by
  induction digits using List.reverseRecOn with
  | nil => rfl
  | append_singleton digits d ih =>
    rw [List.foldl_append, List.foldl_cons, List.foldl_nil, ih, List.reverse_append,
      List.reverse_singleton, List.singleton_append, List.map_cons, Nat.ofDigits_cons, Nat.add_comm,
      Nat.mul_comm]

/-! ## Decimal digits -/

theorem foldl_decimal (n : Nat) :
    (decimal n).foldl (fun m c => m * 10 + (c.toNat - 48)) 0 = n := by
  have hdigit : ∀ d < 10, (decimalDigit d).toNat - 48 = d := by decide
  induction n using decimal.induct with
  | case1 n h =>
    rw [decimal, if_pos h, List.foldl_cons, List.foldl_nil, hdigit n h]
    omega
  | case2 n h ih =>
    have hlast : n % 10 < 10 := by omega
    rw [decimal, if_neg h, List.foldl_append, ih, List.foldl_cons, List.foldl_nil, hdigit _ hlast]
    omega

theorem decimal_injective {m n : Nat} (h : decimal m = decimal n) : m = n := by
  rw [← foldl_decimal m, h, foldl_decimal]

theorem decimalText_inj {m n : Nat} : decimalText m = decimalText n ↔ m = n := by
  rw [decimalText, decimalText, String.ofList_inj]
  exact ⟨decimal_injective, congrArg decimal⟩

theorem exists_decimalDigit {n : Nat} {c : Char} (h : c ∈ decimal n) :
    ∃ d < 10, c = decimalDigit d := by
  induction n using decimal.induct with
  | case1 n hsmall =>
    rw [decimal, if_pos hsmall, List.mem_singleton] at h
    exact ⟨n, hsmall, h⟩
  | case2 n hlarge ih =>
    rw [decimal, if_neg hlarge, List.mem_append, List.mem_singleton] at h
    rcases h with h | rfl
    · exact ih h
    · exact ⟨n % 10, by omega, rfl⟩

theorem decimal_eq_toDigits (n : Nat) : decimal n = Nat.toDigits 10 n := by
  have hdigit : ∀ d < 10, decimalDigit d = Nat.digitChar d := by decide
  induction n using decimal.induct with
  | case1 n h => rw [decimal, if_pos h, Nat.toDigits_of_lt_base h, hdigit n h]
  | case2 n h ih =>
    have hlast : n % 10 < 10 := by omega
    rw [decimal, if_neg h, Nat.toDigits_of_base_le (by decide) (Nat.not_lt.1 h), ih,
      hdigit _ hlast]

theorem toList_toString (n : Nat) : (toString n).toList = decimal n := by
  rw [Nat.toString_eq_repr, Nat.repr_eq_ofList_toDigits, String.toList_ofList, decimal_eq_toDigits]

theorem decimalText_eq_toString (n : Nat) : decimalText n = toString n := by
  rw [← String.toList_inj, toList_toString, decimalText, String.toList_ofList]

theorem isDigit_of_mem_decimal {n : Nat} {c : Char} (h : c ∈ decimal n) : c.isDigit = true :=
  Nat.isDigit_of_mem_toDigits (by decide) (by decide) (decimal_eq_toDigits n ▸ h)

/-! ## Hexadecimal digits -/

/-- The value of a hexadecimal digit in either letter case: its place among the small ones. -/
def digitValue (c : Char) : Nat := "0123456789abcdef".toList.idxOf c.toLower

theorem hexValue?_eq_digitValue {c : Char} (h : c ∈ hexDigits) :
    hexValue? c = some (digitValue c) := by
  have hall : hexDigits.all (fun c => hexValue? c == some (digitValue c)) = true := by decide
  exact beq_iff_eq.1 (List.all_eq_true.1 hall c h)

theorem hexNumber_eq {s : String} (h : IsDigits s) :
    hexNumber s = Nat.ofDigits 16 (s.toList.reverse.map digitValue) := by
  rw [hexNumber, foldl_eq_ofDigits]
  refine congrArg _ (List.map_congr_left fun c hc => ?_)
  rw [hexValue?_eq_digitValue (h c (List.mem_reverse.1 hc)), Option.getD_some]

theorem bigEndian_eq (bs : Bytes) :
    bigEndian bs = Nat.ofDigits 256 (bs.reverse.map UInt8.toNat) :=
  foldl_eq_ofDigits 256 UInt8.toNat bs

/-- **The digits of bytes denote the number of the bytes.** -/
theorem hexNumber_hexEncode (bs : Bytes) : hexNumber (hexEncode bs) = bigEndian bs := by
  have hpair (b : UInt8) (n : Nat) :
      (hexByte b).foldl (fun n c => n * 16 + (hexValue? c).getD 0) n = n * 256 + b.toNat := by
    obtain ⟨hhigh, hlow⟩ := hexByte_digits b
    simp only [hexByte, List.foldl_cons, List.foldl_nil, (hexDigit_spec _ hhigh).1,
      (hexDigit_spec _ hlow).1, Option.getD_some]
    omega
  rw [hexNumber, hexEncode, String.toList_ofList, bigEndian, List.foldl_flatMap]
  exact congrArg (fun f => bs.foldl f 0) (funext fun n => funext fun b => hpair b n)

/-! ## Bytes -/

theorem bigEndian_lt (bs : Bytes) : bigEndian bs < 256 ^ bs.length := by
  have hdigits : ∀ d ∈ bs.reverse.map UInt8.toNat, d < 256 := by
    intro d hd
    obtain ⟨b, -, rfl⟩ := List.mem_map.1 hd
    exact b.toNat_lt
  have hlt := Nat.ofDigits_lt_base_pow_length (by norm_num : 1 < 256) hdigits
  rwa [← bigEndian_eq, List.length_map, List.length_reverse] at hlt

/-- A number that takes so many bytes is that of some. -/
theorem exists_bigEndian (width : Nat) {n : Nat} (h : n < 256 ^ width) :
    ∃ bs : Bytes, bs.length = width ∧ bigEndian bs = n := by
  induction width generalizing n with
  | zero => exact ⟨[], rfl, (Nat.lt_one_iff.1 h).symm⟩
  | succ width ih =>
    obtain ⟨bs, hlength, hbs⟩ := ih (n := n / 256) (by
      rw [Nat.pow_succ] at h
      exact Nat.div_lt_of_lt_mul (by rwa [Nat.mul_comm]))
    refine ⟨bs ++ [UInt8.ofNat (n % 256)], by rw [List.length_append, hlength]; rfl, ?_⟩
    have hlast : (UInt8.ofNat (n % 256)).toNat = n % 256 :=
      UInt8.toNat_ofNat_of_lt (by show n % 256 < 256; omega)
    unfold bigEndian at hbs ⊢
    rw [List.foldl_append, hbs, List.foldl_cons, List.foldl_nil, hlast]
    omega

end LightningLottery
