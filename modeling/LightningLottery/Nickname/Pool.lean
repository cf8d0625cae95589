/-
  Nicknames: a fixed name for each key, such as `WaryBaron635`.

  * `NicknamePool`: two word lists; with a number below 999 they make `size` names.
  * `NicknamePool.indexOf`: the place of a key in the pool, proportional to its 256-bit number.
  * `NicknamePool.nickname`: the name at that place.
  * `nicknameOf`: the name from the bundled pool.
-/
import LightningLottery.Error
import LightningLottery.Hash.Sha256
import LightningLottery.Nickname.Adjectives
import LightningLottery.Nickname.Nouns

namespace LightningLottery

/-- The word lists that nicknames are drawn from, neither of them empty. -/
structure NicknamePool where
  adjectives : List String
  nouns : List String
  adjectives_ne_nil : adjectives ≠ []
  nouns_ne_nil : nouns ≠ []

namespace NicknamePool

/-- The pool of two word lists. -/
def ofLists (adjectives nouns : List String) : Except Error NicknamePool :=
  if ha : adjectives = [] then .error (.config .emptyWordList)
  else if hn : nouns = [] then .error (.config .emptyWordList)
  else .ok ⟨adjectives, nouns, ha, hn⟩

/-- The bundled pool. -/
def bundled : NicknamePool :=
  ⟨Nickname.adjectives, Nickname.nouns, List.cons_ne_nil _ _, List.cons_ne_nil _ _⟩

/-- The numbers that end a nickname are below this. -/
def maxNumber : Nat := 999

/-- The number of nicknames of a pool. It is counted in a word of 64 bits, which holds it as long as
    the lengths of the two lists have a product below 2^64 / 999. -/
def size (pool : NicknamePool) : Nat :=
  maxNumber * pool.adjectives.length * pool.nouns.length

/-- The nicknames that share an adjective. -/
def perAdjective (pool : NicknamePool) : Nat := maxNumber * pool.nouns.length

/-- The number of 256-bit keys. -/
def keyCount : Nat := 1 <<< 256

/-- The share of a key in all keys is kept in units of this many to one. -/
def scale : Nat := 100000000000000000000

/-- The digits that stand for a key: its own if it is a key text, else those of its digest. -/
def keyDigitsOf (key : String) : String :=
  if isHexKey key then key else hexEncode (sha256 (utf8 key))

/-- The share of a key's number in all keys, in units of `scale` to one, a half rounding up. -/
def share (k : Nat) : Nat := (2 * (k * scale) + keyCount) / (2 * keyCount)

/-- The place of a 256-bit number in the pool. A share that rounds up to one stays in the pool. -/
def indexOfNumber (pool : NicknamePool) (k : Nat) : Nat :=
  min (share k * pool.size / scale) (pool.size - 1)

/-- The place of a key in the pool. -/
def indexOf (pool : NicknamePool) (key : String) : Nat :=
  pool.indexOfNumber (hexNumber (keyDigitsOf key))

/-- The nickname at a place: adjective, noun and number, the number varying fastest. -/
def nameAt (pool : NicknamePool) (index : Nat) : String :=
  pool.adjectives.getD (index / pool.perAdjective) "" ++
    pool.nouns.getD (index % pool.perAdjective / maxNumber) "" ++
    decimalText (index % maxNumber)

/-- The nickname of a key. -/
def nickname (pool : NicknamePool) (key : String) : String := pool.nameAt (pool.indexOf key)

end NicknamePool

/-- The nickname of a key from the bundled pool. -/
def nicknameOf (key : String) : String := NicknamePool.bundled.nickname key

end LightningLottery
