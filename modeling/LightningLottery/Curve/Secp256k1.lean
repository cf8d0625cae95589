/-
  Signatures on the curve secp256k1, with recovery of the signer's key (SEC 1, section 4.1).

  * `Secp256k1.Point`: a point in Jacobian coordinates, with `add`, `double` and `mul`.
  * `parseKey?`: the point of a compressed key of 33 bytes.
  * `recover?`: the key under which a signature with a recovery id is good.
  * `verify`: plain verifying; a scalar in the upper half of the range is refused.
-/
import LightningLottery.Curve.Modular

namespace LightningLottery.Secp256k1

/-- The field prime. -/
def fieldPrime : Nat :=
  115792089237316195423570985008687907853269984665640564039457584007908834671663

/-- The order of the base point. -/
def order : Nat :=
  115792089237316195423570985008687907852837564279074904382605163141518161494337

/-- The point with abscissa `x / z²` and ordinate `y / z³`; the point at infinity has `z = 0`. -/
structure Point where
  x : Nat
  y : Nat
  z : Nat
  deriving DecidableEq, Repr

namespace Point

/-- The point at infinity, neutral for addition. -/
def infinity : Point := ⟨1, 1, 0⟩

/-- The base point. -/
def base : Point where
  x := 55066263022277343669578718895168534326250603453777594175500187360389116729240
  y := 32670510020758816978083085130507043184471273380659243275938904335757337482424
  z := 1

/-- The double of a point. -/
def double (p : Point) : Point :=
  let m := fieldPrime
  if p.z = 0 || p.y = 0 then infinity
  else
    let a := p.x * p.x % m
    let b := p.y * p.y % m
    let s := 4 * p.x * b % m
    let t := 3 * a % m
    let x := subMod m (t * t % m) (2 * s)
    let y := subMod m (t * subMod m s x % m) (8 * (b * b % m))
    ⟨x, y, 2 * p.y * p.z % m⟩

/-- The sum of two points. -/
def add (p q : Point) : Point :=
  let m := fieldPrime
  if p.z = 0 then q
  else if q.z = 0 then p
  else
    let pz2 := p.z * p.z % m
    let qz2 := q.z * q.z % m
    let u1 := p.x * qz2 % m
    let u2 := q.x * pz2 % m
    let s1 := p.y * qz2 % m * q.z % m
    let s2 := q.y * pz2 % m * p.z % m
    if u1 = u2 then
      if s1 = s2 then double p else infinity
    else
      let h := subMod m u2 u1
      let r := subMod m s2 s1
      let h2 := h * h % m
      let h3 := h2 * h % m
      let v := u1 * h2 % m
      let x := subMod m (subMod m (r * r % m) h3) (2 * v)
      let y := subMod m (r * subMod m v x % m) (s1 * h3 % m)
      ⟨x, y, p.z * q.z % m * h % m⟩

/-- A multiple of a point. -/
def mul (n : Nat) (p : Point) : Point :=
  if n = 0 then infinity
  else
    let half := mul (n / 2) p
    let even := double half
    if n % 2 = 1 then add even p else even
termination_by n

/-- The abscissa of a point other than infinity. -/
def abscissa (p : Point) : Nat :=
  let inverse := invMod fieldPrime p.z
  p.x * (inverse * inverse % fieldPrime) % fieldPrime

/-- The point with the given abscissa whose ordinate has the given parity, if there is one. -/
def ofAbscissa? (x parity : Nat) : Option Point :=
  let m := fieldPrime
  let square := (x * x % m * x + 7) % m
  let root := powMod m square ((m + 1) / 4)
  if root * root % m ≠ square then none
  else some ⟨x, if root % 2 = parity then root else m - root, 1⟩

end Point

/-- The point of a compressed key: a parity byte, 2 or 3, and the abscissa. -/
def parseKey? (bs : Bytes) : Option Point :=
  match bs with
  | parity :: rest =>
    let x := bigEndian rest
    if rest.length = 32 && (parity == 2 || parity == 3) && decide (x < fieldPrime) then
      Point.ofAbscissa? x (parity.toNat - 2)
    else none
  | [] => none

/-- A signature: two scalars, and which of the up to four candidate points it was made with. -/
structure Signature where
  r : Nat
  s : Nat
  recoveryId : Nat
  deriving DecidableEq, Repr

/-- Why bytes are no signature. -/
inductive SignatureFault where
  /-- The recovery id is above 3. -/
  | recoveryId
  /-- A scalar is not below the group order. -/
  | scalar
  deriving DecidableEq, Repr

/-- The signature of 65 bytes: two scalars of 32 bytes and the recovery id. -/
def Signature.parse (bs : Bytes) : Except SignatureFault Signature :=
  let r := bigEndian (bs.take 32)
  let s := bigEndian ((bs.drop 32).take 32)
  let id := bigEndian (bs.drop 64)
  if 3 < id then .error .recoveryId
  else if order ≤ r || order ≤ s then .error .scalar
  else .ok ⟨r, s, id⟩

/-- The key under which the signature of a digest is good, if there is one. -/
def recover? (digest : Bytes) (sig : Signature) : Option Point :=
  if sig.r = 0 || sig.s = 0 then none
  else
    let x := if sig.recoveryId / 2 % 2 = 1 then sig.r + order else sig.r
    if fieldPrime ≤ x then none
    else do
      let p ← Point.ofAbscissa? x (sig.recoveryId % 2)
      let inverse := invMod order sig.r
      let m := bigEndian digest % order
      let ofBase := Point.mul (subMod order 0 (m * inverse)) .base
      let key := Point.add ofBase (.mul (sig.s * inverse % order) p)
      if key.z = 0 then none else some key

/-- Whether a digest is signed so under a key; of the two scalars `s` that would do, only the one
    in the lower half of the range is taken. -/
def verify (digest : Bytes) (sig : Signature) (key : Point) : Bool :=
  if sig.r = 0 || sig.s = 0 || order / 2 < sig.s then false
  else
    let inverse := invMod order sig.s
    let m := bigEndian digest % order
    let p := Point.add (.mul (m * inverse % order) .base) (.mul (sig.r * inverse % order) key)
    p.z != 0 && p.abscissa % order == sig.r

end LightningLottery.Secp256k1
