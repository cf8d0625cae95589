/-
  The direction of writing in domain names (RFC 5893).

  * `Direction`: which way a character is written.
  * `Domain.fitsDirection`: what is asked of each label of a name that is written from right to left
    in part.
-/
import LightningLottery.Url.Domain.Mark

namespace LightningLottery
namespace Domain

/-- Which way a character is written. -/
inductive Direction where
  | leftToRight
  | rightToLeft
  | europeanNumber
  | arabicNumber
  /-- As the character before it. -/
  | mark
  /-- As the characters around it. -/
  | neutral
  deriving DecidableEq, Repr

/-- Where the direction changes, marks left out of account. -/
def directionChanges : List (Nat × Direction) :=
  [(0x0, .neutral), (0x30, .europeanNumber), (0x3A, .neutral), (0x61, .leftToRight),
   (0x7B, .neutral), (0xDF, .leftToRight), (0xF7, .neutral), (0xF8, .leftToRight),
   (0x2B9, .neutral), (0x2BB, .leftToRight), (0x2C2, .neutral), (0x2D0, .leftToRight),
   (0x2D2, .neutral), (0x2EE, .leftToRight), (0x2EF, .neutral), (0x371, .leftToRight),
   (0x375, .neutral), (0x377, .leftToRight), (0x3F6, .neutral), (0x3F8, .leftToRight),
   (0x58A, .neutral), (0x5BE, .rightToLeft), (0x606, .neutral), (0x608, .rightToLeft),
   (0x609, .neutral), (0x60B, .rightToLeft), (0x60C, .neutral), (0x60D, .rightToLeft),
   (0x60E, .neutral), (0x61B, .rightToLeft), (0x660, .arabicNumber), (0x66A, .neutral),
   (0x66B, .arabicNumber), (0x66D, .rightToLeft), (0x6DE, .neutral), (0x6E5, .rightToLeft),
   (0x6E9, .neutral), (0x6EE, .rightToLeft), (0x6F0, .europeanNumber), (0x6FA, .rightToLeft),
   (0x7F6, .neutral), (0x7FA, .rightToLeft), (0x903, .leftToRight), (0x9F2, .neutral),
   (0x9F4, .leftToRight), (0x9FB, .neutral), (0x9FC, .leftToRight), (0xAF1, .neutral),
   (0xAF9, .leftToRight), (0xBF3, .neutral), (0xC01, .leftToRight), (0xC78, .neutral),
   (0xC7F, .leftToRight), (0xE3F, .neutral), (0xE40, .leftToRight), (0xF3A, .neutral),
   (0xF3E, .leftToRight), (0x1390, .neutral), (0x13A0, .leftToRight), (0x1400, .neutral),
   (0x1401, .leftToRight), (0x169B, .neutral), (0x16A0, .leftToRight), (0x17DB, .neutral),
   (0x17DC, .leftToRight), (0x17F0, .neutral), (0x1810, .leftToRight), (0x1940, .neutral),
   (0x1946, .leftToRight), (0x19DE, .neutral), (0x1A00, .leftToRight), (0x200C, .neutral),
   (0x214E, .leftToRight), (0x218A, .neutral), (0x2336, .leftToRight), (0x237B, .neutral),
   (0x2395, .leftToRight), (0x2396, .neutral), (0x26AC, .leftToRight), (0x26AD, .neutral),
   (0x2800, .leftToRight), (0x2900, .neutral), (0x2C30, .leftToRight), (0x2CE5, .neutral),
   (0x2CEC, .leftToRight), (0x2CF9, .neutral), (0x2D00, .leftToRight), (0x2E00, .neutral),
   (0x3005, .leftToRight), (0x3008, .neutral), (0x3021, .leftToRight), (0x3030, .neutral),
   (0x3031, .leftToRight), (0x3037, .neutral), (0x303B, .leftToRight), (0x303D, .neutral),
   (0x3041, .leftToRight), (0x30A0, .neutral), (0x30A1, .leftToRight), (0x30FB, .neutral),
   (0x30FC, .leftToRight), (0x31C0, .neutral), (0x31F0, .leftToRight), (0x4DC0, .neutral),
   (0x4E00, .leftToRight), (0xA490, .neutral), (0xA4D0, .leftToRight), (0xA60D, .neutral),
   (0xA610, .leftToRight), (0xA673, .neutral), (0xA681, .leftToRight), (0xA700, .neutral),
   (0xA723, .leftToRight), (0xA788, .neutral), (0xA789, .leftToRight), (0xA828, .neutral),
   (0xA830, .leftToRight), (0xA838, .neutral), (0xA840, .leftToRight), (0xA874, .neutral),
   (0xA880, .leftToRight), (0xAB6A, .neutral), (0xABC0, .leftToRight), (0xFBB2, .rightToLeft),
   (0xFBC3, .neutral), (0xFE73, .rightToLeft), (0x10000, .leftToRight), (0x10101, .neutral),
   (0x10102, .leftToRight), (0x10140, .neutral), (0x1018D, .leftToRight), (0x10190, .neutral),
   (0x101D0, .leftToRight), (0x102E1, .europeanNumber), (0x10300, .leftToRight),
   (0x10800, .rightToLeft), (0x1091F, .neutral), (0x10920, .rightToLeft), (0x10B39, .neutral),
   (0x10B40, .rightToLeft), (0x10D30, .arabicNumber), (0x10D40, .rightToLeft), (0x10D6E, .neutral),
   (0x10D6F, .rightToLeft), (0x10E60, .arabicNumber), (0x10E80, .rightToLeft), (0x10ED0, .neutral),
   (0x10F00, .rightToLeft), (0x11000, .leftToRight), (0x11052, .neutral), (0x11066, .leftToRight),
   (0x11660, .neutral), (0x11680, .leftToRight), (0x11FD5, .neutral), (0x11FFF, .leftToRight),
   (0x16FE2, .neutral), (0x16FE3, .leftToRight), (0x1CC00, .neutral), (0x1CF50, .leftToRight),
   (0x1D1E9, .neutral), (0x1D2C0, .leftToRight), (0x1D300, .neutral), (0x1D360, .leftToRight),
   (0x1E2FF, .neutral), (0x1E4D0, .leftToRight), (0x1E800, .rightToLeft), (0x1EEF0, .neutral),
   (0x1F150, .leftToRight), (0x1F16D, .neutral), (0x1F170, .leftToRight), (0x1F1AD, .neutral),
   (0x1F1E6, .leftToRight), (0x1F260, .neutral), (0x20000, .leftToRight)]

/-- Marks that are written as letters. -/
def letterMarks : List Nat := [0xCBF, 0xCC6, 0x11A07, 0x11A08, 0x11C3F]

/-- Which way a character is written. -/
def directionOf (c : Char) : Direction :=
  if isNonspacingMark c then if letterMarks.contains c.toNat then .leftToRight else .mark
  else valueAt .leftToRight directionChanges c.toNat

/-- Whether a character is written from right to left, or is a number of such a script. -/
def isRightToLeft (c : Char) : Bool :=
  match directionOf c with
  | .rightToLeft | .arabicNumber => true
  | _ => false

/-- Whether a label runs in one direction: it starts with a letter, ends with a letter or a number
    and the marks on it, and its numbers are of one kind if it is written from right to left. -/
def fitsDirection (label : List Char) : Bool :=
  match label.map directionOf with
  | [] => true
  | first :: others =>
    let inner := (others.reverse.dropWhile (· == .mark)).reverse
    let allIn := fun (allowed : List Direction) => inner.all allowed.contains
    let endsIn := fun (allowed : List Direction) => inner.getLast?.all allowed.contains
    match first with
    | .leftToRight =>
      allIn [.leftToRight, .europeanNumber, .mark, .neutral] &&
        endsIn [.leftToRight, .europeanNumber]
    | .rightToLeft =>
      allIn [.rightToLeft, .europeanNumber, .arabicNumber, .mark, .neutral] &&
        endsIn [.rightToLeft, .europeanNumber, .arabicNumber] &&
        !(inner.contains .europeanNumber && inner.contains .arabicNumber)
    | _ => false

end Domain
end LightningLottery
