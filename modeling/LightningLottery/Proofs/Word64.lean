/-
  Words of 64 bits as numbers.

  * `toNat_saturatingAdd`: the sum of two words, up to the greatest word.
-/
import LightningLottery.Word64

namespace LightningLottery

theorem toNat_saturatingAdd (a b : UInt64) :
    (saturatingAdd a b).toNat = min (a.toNat + b.toNat) (wordLimit - 1) := by
  unfold saturatingAdd
  split
  · next h =>
    rw [UInt64.toNat_add]
    unfold wordLimit at *
    omega
  · next h =>
    have hmax : (18446744073709551615 : UInt64).toNat = wordLimit - 1 := rfl
    rw [hmax]
    unfold wordLimit at *
    omega

end LightningLottery
