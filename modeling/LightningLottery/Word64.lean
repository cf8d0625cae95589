/-
  Words of 64 bits.

  * `wordLimit`: the first number that is no such word.
  * `saturatingAdd`: a sum that stops at the greatest word.
-/

namespace LightningLottery

/-- The first number that takes more than 64 bits. -/
def wordLimit : Nat := 18446744073709551616

/-- The sum, or the greatest word when the sum takes more than 64 bits. -/
def saturatingAdd (a b : UInt64) : UInt64 :=
  if a.toNat + b.toNat < wordLimit then a + b else 18446744073709551615

end LightningLottery
