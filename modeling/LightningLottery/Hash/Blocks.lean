/-
  Messages cut into blocks, as the digests of FIPS 180-4 take them in.

  * `Blocks.pad`: the message, a one bit, zeros, and its length in bits, to whole blocks.
  * `Blocks.pieces`: bytes cut into pieces of one size.
-/
import LightningLottery.Text.Utf8

namespace LightningLottery.Blocks

/-- The bytes of a number in a field of `width` bytes, the highest first. -/
def lengthField (width n : Nat) : Bytes :=
  (List.range width).reverse.map fun i => UInt8.ofNat (n >>> (8 * i))

/-- The number of zero bytes between the one bit and a length of `width` bytes. -/
def zeroCount (size width length : Nat) : Nat := (2 * size - 1 - width - length % size) % size

/-- The message with its padding: whole blocks of `size` bytes, the last of which ends with the
    length of the message in a field of `width` bytes. -/
def pad (size width : Nat) (message : Bytes) : Bytes :=
  message ++ 0x80 :: (List.replicate (zeroCount size width message.length) 0 ++
    lengthField width (8 * message.length))

/-- Bytes cut into pieces of `size` bytes, at most `count` of them. -/
def pieces (size : Nat) : Nat → Bytes → List Bytes
  | 0, _ => []
  | count + 1, bs => bs.take size :: pieces size count (bs.drop size)

/-- Bytes cut into as many pieces of `size` bytes as there are. -/
def ofBytes (size : Nat) (bs : Bytes) : List Bytes := pieces size (bs.length / size) bs

end LightningLottery.Blocks
