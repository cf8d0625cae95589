/-
  Punycode (RFC 3492): text outside of ASCII written with letters, digits and hyphens.

  * `Punycode.encode`: the ASCII characters of a text, then where and which the others are, in
    ascending order, as numbers of variable length.
  * `Punycode.decode?`: undoes it, where the text is such a written form.
-/
import LightningLottery.Text.Split

namespace LightningLottery
namespace Punycode

/-! ## Numbers of variable length -/

/-- Digits count to this base: `a` to `z`, then `0` to `9`. -/
def base : Nat := 36

/-- The digit of a value. -/
def digit (value : Nat) : Char :=
  if value < 26 then Char.ofNat (97 + value) else Char.ofNat (22 + value)

/-- The value of a digit, in either letter case. -/
def digitValue? (c : Char) : Option Nat :=
  if 'a' ≤ c && c ≤ 'z' then some (c.toNat - 97)
  else if 'A' ≤ c && c ≤ 'Z' then some (c.toNat - 65)
  else if '0' ≤ c && c ≤ '9' then some (c.toNat - 22)
  else none

/-- A digit below the threshold of its place ends a number. -/
def threshold (place bias : Nat) : Nat := min 26 (max 1 (place - bias))

theorem threshold_pos (place bias : Nat) : 1 ≤ threshold place bias := by
  unfold threshold; omega

/-- The digits of a number. -/
def writeNumber (bias place n : Nat) : List Char :=
  let t := threshold place bias
  if n < t then [digit n]
  else digit (t + (n - t) % (base - t)) :: writeNumber bias (place + base) ((n - t) / (base - t))
termination_by n
decreasing_by
  have := threshold_pos place bias
  have := Nat.div_le_self (n - threshold place bias) (base - threshold place bias)
  omega

/-- The number in front, and what follows it. -/
def readNumber? (bias place weight : Nat) : List Char → Option (Nat × List Char)
  | [] => none
  | c :: rest => do
    let d ← digitValue? c
    let t := threshold place bias
    if d < t then return (d * weight, rest)
    let (n, rest) ← readNumber? bias (place + base) (weight * (base - t)) rest
    return (d * weight + n, rest)

theorem readNumber?_lt {bias place weight n : Nat} {cs rest : List Char}
    (h : readNumber? bias place weight cs = some (n, rest)) : rest.length < cs.length := by
  induction cs generalizing place weight n with
  | nil => simp [readNumber?] at h
  | cons c cs ih =>
    cases hd : digitValue? c with
    | none => simp [readNumber?, hd] at h
    | some d =>
      by_cases ht : d < threshold place bias
      · simp [readNumber?, hd, ht] at h
        simp [h.2]
      · cases hr : readNumber? bias (place + base) (weight * (base - threshold place bias)) cs with
        | none => simp [readNumber?, hd, ht, hr] at h
        | some p =>
          obtain ⟨m, tail⟩ := p
          simp [readNumber?, hd, ht, hr] at h
          have := ih (h.2 ▸ hr)
          simp only [List.length_cons]
          omega

/-! ## The bias that fits the numbers so far -/

/-- Divides a difference down, and counts the places that takes. -/
def shrink (delta : Nat) : Nat × Nat :=
  if delta ≤ 455 then (delta, 0)
  else
    let (rest, places) := shrink (delta / 35)
    (rest, places + base)
termination_by delta
decreasing_by exact Nat.div_lt_self (by omega) (by decide)

/-- The next bias, after a difference was written among `count` characters. -/
def adapt (delta count : Nat) (first : Bool) : Nat :=
  let scaled := if first then delta / 700 else delta / 2
  let (rest, places) := shrink (scaled + scaled / count)
  places + base * rest / (rest + 38)

/-- The bias to start with. -/
def initialBias : Nat := 72

/-- The code points from here on are written as differences. -/
def firstCode : Nat := 128

/-! ## Text -/

/-- Whether a character is written as it is. -/
def isBasic (c : Char) : Bool := c.toNat < firstCode

/-- The state of writing: how many characters are placed, what is to be added to the next number,
    and the bias. -/
structure Writer where
  placed : Nat
  delta : Nat
  bias : Nat

/-- Goes over a text once to place every occurrence of a code point; the others are only counted
    if they are placed already. -/
def placeAll (basicCount code : Nat) : List Char → Writer → List Char × Writer
  | [], w => ([], w)
  | c :: rest, w =>
    if c.toNat < code then placeAll basicCount code rest { w with delta := w.delta + 1 }
    else if c.toNat = code then
      let bias := adapt w.delta (w.placed + 1) (w.placed == basicCount)
      let (written, after) := placeAll basicCount code rest ⟨w.placed + 1, 0, bias⟩
      (writeNumber w.bias base w.delta ++ written, after)
    else placeAll basicCount code rest w

/-- Places code points in ascending order, `next` being the least that may come. -/
def placeCodes (text : List Char) (basicCount next : Nat) (w : Writer) : List Nat → List Char
  | [] => []
  | code :: codes =>
    let w := { w with delta := w.delta + (code - next) * (w.placed + 1) }
    let (written, w) := placeAll basicCount code text w
    written ++ placeCodes text basicCount (code + 1) { w with delta := w.delta + 1 } codes

/-- The written form of a text. -/
def encode (text : List Char) : List Char :=
  let basic := text.filter isBasic
  let others := (text.filter fun c => !isBasic c).map Char.toNat
  let codes := (others.mergeSort (· ≤ ·)).eraseDups
  let shown := if basic.isEmpty then [] else basic ++ ['-']
  shown ++ placeCodes text basic.length firstCode ⟨basic.length, 0, initialBias⟩ codes

/-- Puts the characters that numbers denote into a text, at `place` or behind it. -/
def insertAll (code place bias : Nat) (first : Bool) (text cs : List Char) : Option (List Char) :=
  match h : readNumber? bias base 1 cs with
  | none => if cs.isEmpty then some text else none
  | some (n, rest) =>
    let count := text.length + 1
    let code := code + (place + n) / count
    let place := (place + n) % count
    if code.isValidChar then
      have := readNumber?_lt h
      insertAll code (place + 1) (adapt n count first) false
        (text.insertIdx place (Char.ofNat code)) rest
    else none
termination_by cs.length

/-- The text before the last hyphen, and what follows it; a hyphen with nothing before it belongs to
    what follows. -/
def splitBasic (cs : List Char) : List Char × List Char :=
  match splitFirst? '-' cs.reverse with
  | none | some (_, []) => ([], cs)
  | some (after, before) => (before.reverse, after.reverse)

/-- The text that a written form stands for. -/
def decode? (cs : List Char) : Option (List Char) :=
  let (basic, numbers) := splitBasic cs
  if basic.all isBasic then insertAll firstCode 0 initialBias true basic numbers else none

end Punycode
end LightningLottery
