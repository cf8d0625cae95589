/-
  Arithmetic modulo a number.

  * `powMod`, `invMod`: powers, and inverses modulo a prime.
  * `littleEndian`, `bigEndian`: the number that bytes denote.
  * `toLittleEndian`: the bytes of a number in a field of a given width.
-/
import LightningLottery.Text.Utf8

namespace LightningLottery

/-- A power modulo `m`, by squaring. -/
def powMod (m b e : Nat) : Nat :=
  if e = 0 then 1 % m
  else
    let half := powMod m b (e / 2)
    let square := half * half % m
    if e % 2 = 1 then square * b % m else square
termination_by e

/-- The inverse modulo a prime. -/
def invMod (m b : Nat) : Nat := powMod m b (m - 2)

/-- The difference modulo `m` of two numbers below `m`. -/
def subMod (m a b : Nat) : Nat := (a + (m - b % m)) % m

/-- The number that bytes denote, the first counting least. -/
def littleEndian (bs : Bytes) : Nat := bs.foldr (fun b n => b.toNat + 256 * n) 0

/-- The number that bytes denote, the first counting most. -/
def bigEndian (bs : Bytes) : Nat := bs.foldl (fun n b => n * 256 + b.toNat) 0

/-- The bytes of a number in a field of `width` bytes, the lowest first. -/
def toLittleEndian : (width : Nat) → Nat → Bytes
  | 0, _ => []
  | width + 1, n => UInt8.ofNat (n % 256) :: toLittleEndian width (n / 256)

end LightningLottery
