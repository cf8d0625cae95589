/-
  The checksum of Bech32 (BIP-173): a cyclic code over words of five bits.

  * `Bech32.step`: one word worked into the thirty checksum bits. It is linear for exclusive or.
  * `polymod`: a word sequence worked in, starting from 1.
  * `expand`: the words that stand for a human-readable part.
  * `isSound`: a data part, its six checksum words included, fits its human-readable part.
  * `checksum`: the six words that make it fit.
-/
import LightningLottery.Bech32.Words

namespace LightningLottery.Bech32

/-- The checksum bits. -/
abbrev Residue := BitVec 30

/-- A residue, or nothing, as a bit says. -/
def picked (bit : Bool) (r : Residue) : Residue := if bit then r else 0

/-- What the five bits shifted out at the top put back in. -/
def feedback (r : Residue) : Residue :=
  picked (r.getLsbD 25) 0x3b6a57b2 ^^^ picked (r.getLsbD 26) 0x26508e6d ^^^
    picked (r.getLsbD 27) 0x1ea119fa ^^^ picked (r.getLsbD 28) 0x3d4233dd ^^^
    picked (r.getLsbD 29) 0x2a1462b3

/-- One word worked into the residue. -/
def step (r : Residue) (w : Word) : Residue := (r <<< 5) ^^^ w.setWidth 30 ^^^ feedback r

/-- A word sequence worked into a residue. -/
def run (r : Residue) (ws : List Word) : Residue := ws.foldl step r

/-- The residue of a word sequence. -/
def polymod (ws : List Word) : Residue := run 1 ws

/-- The words of a human-readable part: the high bits of its characters, a zero, the low bits. -/
def expand (hrp : List Char) : List Word :=
  hrp.map (fun c => BitVec.ofNat 5 (c.toNat / 32)) ++
    0 :: hrp.map (fun c => BitVec.ofNat 5 (c.toNat % 32))

/-- The residue of a sound whole. -/
def soundResidue : Residue := 1

/-- The number of checksum words. -/
def checksumLength : Nat := 6

/-- Whether a data part, its checksum included, fits a human-readable part. -/
def isSound (hrp : List Char) (words : List Word) : Bool :=
  polymod (expand hrp ++ words) == soundResidue

/-- The six words that make a data part fit a human-readable part. -/
def checksum (hrp : List Char) (words : List Word) : List Word :=
  let r := polymod (expand hrp ++ words ++ List.replicate checksumLength 0) ^^^ soundResidue
  [(r >>> 25).setWidth 5, (r >>> 20).setWidth 5, (r >>> 15).setWidth 5, (r >>> 10).setWidth 5,
    (r >>> 5).setWidth 5, r.setWidth 5]

end LightningLottery.Bech32
