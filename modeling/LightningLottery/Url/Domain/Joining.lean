/-
  Letters that are joined in writing, and the invisible characters that part or join them in domain
  names (RFC 5892, appendix A).

  * `Joining`: to which neighbour a letter is joined.
  * `Domain.joinersFit`: each joiner stands where it changes how a word is written.
-/
import LightningLottery.Url.Domain.Mark

namespace LightningLottery
namespace Domain

/-- To which of its neighbours a character is joined. -/
inductive Joining where
  | none
  | toPrevious
  | toNext
  | both
  /-- Its neighbours are joined as if it were not there. -/
  | transparent
  deriving DecidableEq, Repr

/-- Where the way of joining changes, marks left out of account. -/
def joiningChanges : List (Nat × Joining) :=
  [(0x620, .both), (0x621, .none), (0x622, .toPrevious), (0x626, .both), (0x627, .toPrevious),
   (0x628, .both), (0x629, .toPrevious), (0x62A, .both), (0x62F, .toPrevious), (0x633, .both),
   (0x640, .none), (0x641, .both), (0x648, .toPrevious), (0x649, .both), (0x660, .none),
   (0x66E, .both), (0x671, .toPrevious), (0x674, .none), (0x679, .both), (0x688, .toPrevious),
   (0x69A, .both), (0x6C0, .toPrevious), (0x6C1, .both), (0x6C3, .toPrevious), (0x6CC, .both),
   (0x6CD, .toPrevious), (0x6CE, .both), (0x6CF, .toPrevious), (0x6D0, .both), (0x6D2, .toPrevious),
   (0x6D4, .none), (0x6D5, .toPrevious), (0x6DE, .none), (0x6EE, .toPrevious), (0x6F0, .none),
   (0x6FA, .both), (0x6FD, .none), (0x6FF, .both), (0x700, .none), (0x710, .toPrevious),
   (0x712, .both), (0x715, .toPrevious), (0x71A, .both), (0x71E, .toPrevious), (0x71F, .both),
   (0x728, .toPrevious), (0x729, .both), (0x72A, .toPrevious), (0x72B, .both), (0x72C, .toPrevious),
   (0x72D, .both), (0x72F, .toPrevious), (0x74E, .both), (0x759, .toPrevious), (0x75C, .both),
   (0x76B, .toPrevious), (0x76D, .both), (0x771, .toPrevious), (0x772, .both), (0x773, .toPrevious),
   (0x775, .both), (0x778, .toPrevious), (0x77A, .both), (0x780, .none), (0x7CA, .both),
   (0x7F4, .none), (0x840, .toPrevious), (0x841, .both), (0x846, .toPrevious), (0x848, .both),
   (0x849, .toPrevious), (0x84A, .both), (0x854, .toPrevious), (0x855, .both), (0x856, .toPrevious),
   (0x85E, .none), (0x860, .both), (0x861, .none), (0x862, .both), (0x866, .none),
   (0x867, .toPrevious), (0x868, .both), (0x869, .toPrevious), (0x883, .none), (0x886, .both),
   (0x887, .none), (0x889, .both), (0x88E, .toPrevious), (0x88F, .both), (0x8AA, .toPrevious),
   (0x8AD, .none), (0x8AE, .toPrevious), (0x8AF, .both), (0x8B1, .toPrevious), (0x8B3, .both),
   (0x8B9, .toPrevious), (0x8BA, .both), (0x8C9, .none), (0x1807, .both), (0x1808, .none),
   (0x1820, .both), (0x1880, .none), (0x1887, .both), (0x18B0, .none), (0xA840, .both),
   (0xA872, .toNext), (0xA873, .none), (0x10AC0, .both), (0x10AC5, .toPrevious), (0x10AC6, .none),
   (0x10AC7, .toPrevious), (0x10AC8, .none), (0x10AC9, .toPrevious), (0x10ACB, .none),
   (0x10ACD, .toNext), (0x10ACE, .toPrevious), (0x10AD3, .both), (0x10AD7, .toNext),
   (0x10AD8, .both), (0x10ADD, .toPrevious), (0x10ADE, .both), (0x10AE1, .toPrevious),
   (0x10AE2, .none), (0x10AE4, .toPrevious), (0x10AEB, .both), (0x10AEF, .toPrevious),
   (0x10AF0, .none), (0x10B80, .both), (0x10B81, .toPrevious), (0x10B82, .both),
   (0x10B83, .toPrevious), (0x10B86, .both), (0x10B89, .toPrevious), (0x10B8A, .both),
   (0x10B8C, .toPrevious), (0x10B8D, .both), (0x10B8E, .toPrevious), (0x10B90, .both),
   (0x10B91, .toPrevious), (0x10B99, .none), (0x10BA9, .toPrevious), (0x10BAD, .both),
   (0x10BAF, .none), (0x10D00, .toNext), (0x10D01, .both), (0x10D22, .toPrevious), (0x10D23, .both),
   (0x10D30, .none), (0x10EC2, .toPrevious), (0x10EC3, .both), (0x10EC5, .none), (0x10EC6, .both),
   (0x10ED0, .none), (0x10F30, .both), (0x10F33, .toPrevious), (0x10F34, .both), (0x10F45, .none),
   (0x10F51, .both), (0x10F54, .toPrevious), (0x10F55, .none), (0x10F70, .both),
   (0x10F74, .toPrevious), (0x10F76, .both), (0x10F86, .none), (0x10FB0, .both), (0x10FB1, .none),
   (0x10FB2, .both), (0x10FB4, .toPrevious), (0x10FB7, .none), (0x10FB8, .both),
   (0x10FB9, .toPrevious), (0x10FBB, .both), (0x10FBD, .toPrevious), (0x10FBE, .both),
   (0x10FC0, .none), (0x10FC1, .both), (0x10FC2, .toPrevious), (0x10FC4, .both), (0x10FC5, .none),
   (0x10FC9, .toPrevious), (0x10FCA, .both), (0x10FCB, .toNext), (0x10FE0, .none), (0x1E922, .both),
   (0x1E94B, .transparent), (0x1E950, .none)]

/-- To which of its neighbours a character is joined. -/
def joiningOf (c : Char) : Joining :=
  if isNonspacingMark c then .transparent else valueAt .none joiningChanges c.toNat

/-- The first neighbour of a joiner that is not transparent. -/
def neighbour? (cs : List Char) : Option Joining :=
  (cs.map joiningOf).find? (· != .transparent)

/-- Whether a mark takes the vowel from the letter before it. -/
def isVirama (c : Char) : Bool := combiningClass c == 9

/-- Whether the joiners of a text fit; `before` is what stands before it, nearest first. A joiner
    follows a mark that takes away a vowel, or, if it parts, stands between letters that would be
    joined. -/
def joinersFit (before : List Char) : List Char → Bool
  | [] => true
  | c :: after =>
    let parts := c.toNat == 0x200C
    let fits :=
      if parts || c.toNat == 0x200D then
        before.head?.any fun previous =>
          isVirama previous ||
            (parts && (neighbour? before == some .toNext || neighbour? before == some .both) &&
              (neighbour? after == some .toPrevious || neighbour? after == some .both))
      else true
    fits && joinersFit (c :: before) after

end Domain
end LightningLottery
