/-
  Text as bytes: UTF-8 (RFC 3629, section 4).

  * `utf8 s`: the bytes of a text.
  * `Utf8.step`: reads one character off the front of a byte sequence, or says why none stands
    there: an ill-formed run and its length, or a sequence that the end cuts short.
  * `Utf8.decode`: strict reading; the first fault is given by its place and extent.
  * `Utf8.decodeLossy`: each ill-formed run is read as one replacement character.
-/

namespace LightningLottery

/-- A byte sequence. -/
abbrev Bytes := List UInt8

/-- The bytes of a text. -/
def utf8 (s : String) : Bytes := s.toList.flatMap String.utf8EncodeChar

namespace Utf8

/-- What stands at the front of a byte sequence. -/
inductive Step where
  /-- No byte is left. -/
  | done
  /-- A character, and what follows it. -/
  | char (c : Char) (rest : Bytes)
  /-- A run of bytes that starts no character, its length, and what follows it. -/
  | illFormed (length : Nat) (rest : Bytes)
  /-- The start of a character that the end of the bytes cuts short. -/
  | cutShort
  deriving Repr

/-- A continuation byte. -/
def isTail (b : UInt8) : Bool := 0x80 ≤ b && b ≤ 0xBF

/-- How many continuation bytes a lead byte calls for; none for a byte that leads nothing. -/
def owed (b : UInt8) : Option Nat :=
  if 0xC2 ≤ b && b ≤ 0xDF then some 1
  else if 0xE0 ≤ b && b ≤ 0xEF then some 2
  else if 0xF0 ≤ b && b ≤ 0xF4 then some 3
  else none

/-- Whether `c` may stand second after the lead byte `b`: overlong forms, surrogates and values
    past U+10FFFF are cut off here. -/
def secondFits (b c : UInt8) : Bool :=
  if b == 0xE0 then 0xA0 ≤ c && c ≤ 0xBF
  else if b == 0xED then 0x80 ≤ c && c ≤ 0x9F
  else if b == 0xF0 then 0x90 ≤ c && c ≤ 0xBF
  else if b == 0xF4 then 0x80 ≤ c && c ≤ 0x8F
  else isTail c

/-- The six bits a continuation byte carries. -/
def low6 (b : UInt8) : Nat := b.toNat % 64

/-- Reads what stands at the front. -/
def step : Bytes → Step
  | [] => .done
  | b :: rest =>
    if b < 0x80 then .char (Char.ofNat b.toNat) rest
    else match owed b, rest with
      | none, rest => .illFormed 1 rest
      | some _, [] => .cutShort
      | some n, c :: rest =>
        if !secondFits b c then .illFormed 1 (c :: rest)
        else if n == 1 then .char (Char.ofNat (b.toNat % 32 * 64 + low6 c)) rest
        else match rest with
          | [] => .cutShort
          | d :: rest =>
            if !isTail d then .illFormed 2 (d :: rest)
            else if n == 2 then
              .char (Char.ofNat ((b.toNat % 16 * 64 + low6 c) * 64 + low6 d)) rest
            else match rest with
              | [] => .cutShort
              | e :: rest =>
                if !isTail e then .illFormed 3 (e :: rest)
                else
                  let code := ((b.toNat % 8 * 64 + low6 c) * 64 + low6 d) * 64 + low6 e
                  .char (Char.ofNat code) rest

theorem step_char_lt {bs rest : Bytes} {c : Char} (h : step bs = .char c rest) :
    rest.length < bs.length := by
  unfold step at h
  repeat' split at h
  all_goals (try simp at h)
  all_goals (obtain ⟨_, rfl⟩ := h; simp; try omega)

theorem step_illFormed_lt {bs rest : Bytes} {n : Nat} (h : step bs = .illFormed n rest) :
    rest.length < bs.length := by
  unfold step at h
  repeat' split at h
  all_goals (try simp at h)
  all_goals (obtain ⟨_, rfl⟩ := h; simp; try omega)

/-- The replacement character, U+FFFD. -/
def replacement : Char := Char.ofNat 0xFFFD

/-- The characters of a byte sequence, with one replacement character for each run that is no
    UTF-8. -/
def lossyChars (bs : Bytes) : List Char :=
  match h : step bs with
  | .done => []
  | .char c rest =>
    have := step_char_lt h
    c :: lossyChars rest
  | .illFormed _ rest =>
    have := step_illFormed_lt h
    replacement :: lossyChars rest
  | .cutShort => [replacement]
termination_by bs.length

/-- The text of a byte sequence, whatever the bytes. -/
def decodeLossy (bs : Bytes) : String := String.ofList (lossyChars bs)

/-- Where strict reading stopped: the bytes before the fault, and the length of the ill-formed
    run, or none when the end cut a character short. -/
structure Fault where
  validUpTo : Nat
  length : Option Nat
  deriving DecidableEq, Repr

/-- The wording of a fault. -/
def Fault.message (f : Fault) : String :=
  match f.length with
  | some n => s!"invalid utf-8 sequence of {n} bytes from index {f.validUpTo}"
  | none => s!"incomplete utf-8 byte sequence from index {f.validUpTo}"

/-- Strict reading, `read` bytes having been read before. -/
def strictChars (read : Nat) (bs : Bytes) : Except Fault (List Char) :=
  match h : step bs with
  | .done => .ok []
  | .char c rest =>
    have := step_char_lt h
    (strictChars (read + (bs.length - rest.length)) rest).map (c :: ·)
  | .illFormed n _ => .error ⟨read, some n⟩
  | .cutShort => .error ⟨read, none⟩
termination_by bs.length

/-- The text of a byte sequence that is UTF-8 throughout. -/
def decode (bs : Bytes) : Except Fault String := (strictChars 0 bs).map String.ofList

end Utf8

end LightningLottery
