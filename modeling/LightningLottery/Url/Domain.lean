/-
  Domain names in ASCII (Unicode Technical Standard 46).

  * `Domain.fold?`: a name in the form in which names are compared.
  * `Domain.content?`: the characters that a label stands for; a label that starts with `xn--`
    stands for what its Punycode denotes.
  * `Domain.isLabel`: what every label keeps to.
  * `Domain.toAscii?`: a name whose labels outside of ASCII are written as `xn--` and their
    Punycode.
-/
import LightningLottery.Text.Split
import LightningLottery.Url.Domain.Composition
import LightningLottery.Url.Domain.Direction
import LightningLottery.Url.Domain.Image
import LightningLottery.Url.Domain.Joining
import LightningLottery.Url.Punycode

namespace LightningLottery
namespace Domain

/-- What no name holds: controls, the space and the delimiters of a URL. -/
def isForbidden (c : Char) : Bool :=
  c.toNat ≤ 0x20 || c.toNat == 0x7F || "%#/:<>?@[\\]^|".toList.contains c

/-- Whether all of a text is ASCII. -/
def isAscii (cs : List Char) : Bool := cs.all Punycode.isBasic

/-- The characters of a name in the form in which names are compared: images for characters, and
    these composed. In ASCII, only letters become small. -/
def fold? (cs : List Char) : Option (List Char) :=
  if isAscii cs then some (cs.map Char.toLower)
  else (cs.mapM image?).map fun images => compose images.flatten

/-! ## Labels -/

/-- What a label written in Punycode starts with. -/
def aceStart : List Char := "xn--".toList

/-- Labels are written in Punycode up to this many characters. -/
def maxLabel : Nat := 1000

/-- Punycode is read up to this many characters. -/
def maxPunycode : Nat := 2000

/-- The characters that a label stands for. One in Punycode must stand for characters that are not
    all ASCII and have the form in which names are compared. -/
def content? (label : List Char) : Option (List Char) :=
  if aceStart.isPrefixOf label then
    let written := label.drop aceStart.length
    if maxPunycode < written.length then none
    else (Punycode.decode? written).filter fun cs => !isAscii cs && fold? cs == some cs
  else some label

/-- Whether characters may make up a label: none is forbidden, the first is no mark, joiners stand
    where they change the writing, and the label can be written. -/
def isLabel (cs : List Char) : Bool :=
  cs.all (fun c => !isForbidden c) &&
    (isAscii cs || (!(cs.head?.any isMark) && joinersFit [] cs && cs.length ≤ maxLabel))

/-- A label in ASCII that stands for these characters. -/
def written (label content : List Char) : List Char :=
  if isAscii label then label else aceStart ++ Punycode.encode content

/-! ## Names -/

/-- Whether labels keep to the directions of writing; this is asked only where something is written
    from right to left. -/
def directionsFit (labels : List (List Char)) : Bool :=
  labels.all isAscii || !labels.any (·.any isRightToLeft) || labels.all fitsDirection

/-- A name in ASCII. -/
def toAscii? (name : List Char) : Option (List Char) := do
  let folded ← fold? name
  let labels := splitOn '.' folded
  let contents ← labels.mapM content?
  if contents.all isLabel && directionsFit contents then
    some (joinWith '.' (List.zipWith written labels contents))
  else none

end Domain
end LightningLottery
