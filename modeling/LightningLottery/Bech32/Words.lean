/-
  Words of five bits and the bytes they carry.

  * `Word`: a word of five bits.
  * `bytesOfWords`: the whole bytes that a word sequence carries; bits left over at the end are
    dropped.
  * `wordsOfBytes`: the words of a byte sequence, the last one filled up with zero bits.
  * `exactBytes?`: the bytes of a word sequence that ends as `wordsOfBytes` ends.
  * `wordNumber`: the number that words denote, the first counting most.
-/
import LightningLottery.Text.Utf8

namespace LightningLottery

/-- A word of five bits. -/
abbrev Word := BitVec 5

/-- The whole bytes in `bits` pending bits, whose value is `pending`, and the words that follow. -/
def bytesFrom (pending bits : Nat) : List Word → Bytes
  | [] => []
  | w :: ws =>
    let value := pending * 32 + w.toNat
    let held := bits + 5
    if 8 ≤ held then
      let left := held - 8
      UInt8.ofNat (value >>> left) :: bytesFrom (value % (1 <<< left)) left ws
    else bytesFrom value held ws

/-- The whole bytes that a word sequence carries. -/
def bytesOfWords (ws : List Word) : Bytes := bytesFrom 0 0 ws

/-- The words in `bits` pending bits, fewer than five, and the bytes that follow. -/
def wordsFrom (pending bits : Nat) : Bytes → List Word
  | [] => if bits = 0 then [] else [BitVec.ofNat 5 (pending <<< (5 - bits))]
  | b :: bs =>
    let value := pending * 256 + b.toNat
    let held := bits + 8
    if 10 ≤ held then
      let left := held - 10
      BitVec.ofNat 5 (value >>> (left + 5)) :: BitVec.ofNat 5 (value >>> left) ::
        wordsFrom (value % (1 <<< left)) left bs
    else
      let left := held - 5
      BitVec.ofNat 5 (value >>> left) :: wordsFrom (value % (1 <<< left)) left bs

/-- The words of a byte sequence. -/
def wordsOfBytes (bs : Bytes) : List Word := wordsFrom 0 0 bs

/-- Whether a word sequence ends as the words of a byte sequence do: fewer than five bits are left
    over, and they are zero. -/
def isPadded (ws : List Word) : Bool :=
  let left := 5 * ws.length % 8
  decide (left < 5) && (ws.getLast?.getD 0).toNat % (1 <<< left) == 0

/-- The bytes of a word sequence that ends as the words of a byte sequence do. -/
def exactBytes? (ws : List Word) : Option Bytes :=
  if isPadded ws then some (bytesOfWords ws) else none

/-- The number that words denote, the first counting most. -/
def wordNumber (ws : List Word) : Nat := ws.foldl (fun n w => n * 32 + w.toNat) 0

end LightningLottery
