/-
  Numeric hosts.

  * `readIpv4`: one to four numbers, each decimal, octal (leading `0`) or hexadecimal (leading
    `0x`), the last of which fills all bytes that are left.
  * `endsInNumber`: whether a host has to be read so.
  * `readIpv6`: eight groups of up to four hexadecimal digits; `::` stands for a run of zero
    groups, and the last two may be written as a dotted address.
  * `ipv4Text`, `ipv6Text`: the one written form of an address.
-/
import LightningLottery.Text.Grouped
import LightningLottery.Text.Hex
import LightningLottery.Text.Split

namespace LightningLottery

/-! ## Four bytes -/

/-- The number that digits of a base denote, if each of them is a digit of that base. -/
def digitsValue? (base : Nat) (digits : List Char) : Option Nat :=
  digits.foldl (fun value c => do
    let n ← value
    let d ← hexValue? c
    if d < base then some (n * base + d) else none) (some 0)

/-- A part of a dotted address: hexadecimal after `0x`, octal after `0`, decimal otherwise; the
    sign of a base with nothing after it is zero. -/
def ipv4Part? : List Char → Option Nat
  | [] => none
  | '0' :: 'x' :: digits => digitsValue? 16 digits
  | '0' :: 'X' :: digits => digitsValue? 16 digits
  | ['0'] => some 0
  | '0' :: digits => digitsValue? 8 digits
  | digits => digitsValue? 10 digits

/-- The parts of a dotted text, a final dot left out. -/
def dottedParts (host : List Char) : List (List Char) :=
  match (splitOn '.' host).reverse with
  | [] :: parts => parts.reverse
  | parts => parts.reverse

/-- Whether the last part of a host is a number, so that the host must be an address. -/
def endsInNumber (host : List Char) : Bool :=
  match (dottedParts host).getLast? with
  | none => false
  | some part => (!part.isEmpty && part.all Char.isDigit) || (ipv4Part? part).isSome

/-- The address that parts denote: each but the last is a byte, and the last fills what is left. -/
def ipv4OfParts? : List Nat → Nat → Option Nat
  | [], _ => none
  | [last], room => if last < room then some last else none
  | part :: parts, room =>
    if 255 < part then none
    else (ipv4OfParts? parts (room / 256)).map (part * (room / 256) + ·)

/-- The address that a host denotes, as one number below 2^32. -/
def readIpv4 (host : List Char) : Option Nat := do
  let parts ← (dottedParts host).mapM ipv4Part?
  if 4 < parts.length then none else ipv4OfParts? parts 4294967296

/-- Four decimal bytes. -/
def ipv4Text (address : Nat) : String :=
  ".".intercalate (([16777216, 65536, 256, 1] : List Nat).map fun unit =>
    decimalText (address / unit % 256))

/-! ## Eight groups -/

/-- A decimal byte without a leading zero. -/
def decimalByte? (digits : List Char) : Option Nat :=
  match digits with
  | [] => none
  | '0' :: _ :: _ => none
  | _ => (digitsValue? 10 digits).bind fun n => if n ≤ 255 then some n else none

/-- The two groups that a dotted address fills. -/
def dottedGroups? (piece : List Char) : Option (List Nat) :=
  match (splitOn '.' piece).mapM decimalByte? with
  | some [a, b, c, d] => some [a * 256 + b, c * 256 + d]
  | _ => none

/-- A group of one to four hexadecimal digits. -/
def group? (piece : List Char) : Option Nat :=
  if piece.isEmpty || 4 < piece.length then none else digitsValue? 16 piece

/-- The groups of pieces, of which the last may be a dotted address where that is allowed. -/
def groups? (dotted : Bool) : List (List Char) → Option (List Nat)
  | [] => some []
  | [piece] =>
    if dotted && piece.contains '.' then dottedGroups? piece else (group? piece).map ([·])
  | piece :: pieces => do
    let g ← group? piece
    let gs ← groups? dotted pieces
    return g :: gs

/-- The groups between colons; no text is no group. -/
def colonGroups? (dotted : Bool) (cs : List Char) : Option (List Nat) :=
  if cs.isEmpty then some [] else groups? dotted (splitOn ':' cs)

/-- The parts before and after the first double colon. -/
def splitDoubleColon? : List Char → Option (List Char × List Char)
  | ':' :: ':' :: rest => some ([], rest)
  | c :: rest => (splitDoubleColon? rest).map fun (before, after) => (c :: before, after)
  | [] => none

/-- The eight groups that a text denotes. -/
def readIpv6 (cs : List Char) : Option (List Nat) :=
  match splitDoubleColon? cs with
  | none => do
    let groups ← colonGroups? true cs
    if groups.length = 8 then some groups else none
  | some (before, after) => do
    let front ← colonGroups? false before
    let back ← colonGroups? true after
    let given := front.length + back.length
    if given ≤ 7 then some (front ++ List.replicate (8 - given) 0 ++ back) else none

/-- The number of zero groups in front. -/
def leadingZeros (groups : List Nat) : Nat := (groups.takeWhile (· == 0)).length

/-- The longest run of zero groups, the first of several: its place and its length. -/
def longestZeros : List Nat → Nat × Nat
  | [] => (0, 0)
  | g :: gs =>
    let here := leadingZeros (g :: gs)
    let (place, length) := longestZeros gs
    if here < length then (place + 1, length) else (0, here)

/-- A group in small digits without leading zeros. -/
def groupText (g : Nat) : String := String.ofList (hexDigitsOf g)

/-- Groups joined by colons, where the longest run of at least two zero groups is written `::`. -/
def ipv6Text (groups : List Nat) : String :=
  let join := fun (gs : List Nat) => ":".intercalate (gs.map groupText)
  let (place, length) := longestZeros groups
  if length < 2 then join groups
  else join (groups.take place) ++ "::" ++ join (groups.drop (place + length))

end LightningLottery
