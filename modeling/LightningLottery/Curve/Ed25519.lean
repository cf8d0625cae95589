/-
  Signatures on the twisted Edwards curve of Ed25519 (RFC 8032).

  * `Ed25519.Point`: a point in extended coordinates, with `add`, `double` and `mul`.
  * `encode`, `decode?`: a point as 32 bytes. Reading takes the ordinate modulo the field prime
    and any sign for a zero abscissa, so several texts can denote one point.
  * `publicKey`, `sign`, `verify`: keys and signatures. Verifying asks that the scalar lies below
    the group order and that the recomputed point has the signature's very bytes; keys of small
    order are let through.
-/
import LightningLottery.Curve.Modular
import LightningLottery.Hash.Sha512

namespace LightningLottery.Ed25519

/-- The field prime, 19 below the 255th power of two. -/
def fieldPrime : Nat :=
  57896044618658097711785492504343953926634992332820282019728792003956564819949

/-- The order of the base point. -/
def order : Nat :=
  7237005577332262213973186563042994240857116359379907606001950938285454250989

/-- The curve constant, -121665/121666. -/
def curveConstant : Nat :=
  37095705934669439343138083508754565189542113879843219016388785533085940283555

/-- A square root of -1. -/
def rootOfMinusOne : Nat :=
  19681161376707505956807079304988542015446066515923890162744021073123829784752

/-- Two to the 255th power: above it stands the sign bit. -/
def signBit : Nat :=
  57896044618658097711785492504343953926634992332820282019728792003956564819968

/-- The point with abscissa `x/z` and ordinate `y/z`, where `x * y = z * t`. -/
structure Point where
  x : Nat
  y : Nat
  z : Nat
  t : Nat
  deriving DecidableEq, Repr

namespace Point

/-- The neutral point. -/
def zero : Point := ⟨0, 1, 1, 0⟩

/-- The base point. -/
def base : Point where
  x := 15112221349535400772501151409588531511454012693041857206046113283949847762202
  y := 46316835694926478169428394003475163141307993866256225615783033603165251855960
  z := 1
  t := 46827403850823179245072216630277197565144205554125654976674165829533817101731

/-- The sum of two points; the same formulas serve all pairs. -/
def add (p q : Point) : Point :=
  let m := fieldPrime
  let a := subMod m p.y p.x * subMod m q.y q.x % m
  let b := (p.y + p.x) * (q.y + q.x) % m
  let c := p.t * (2 * curveConstant) % m * q.t % m
  let d := 2 * p.z * q.z % m
  let e := subMod m b a
  let f := subMod m d c
  let g := (d + c) % m
  let h := (b + a) % m
  ⟨e * f % m, g * h % m, f * g % m, e * h % m⟩

/-- The double of a point. -/
def double (p : Point) : Point := add p p

/-- The point with the other sign. -/
def neg (p : Point) : Point := ⟨subMod fieldPrime 0 p.x, p.y, p.z, subMod fieldPrime 0 p.t⟩

/-- A multiple of a point. -/
def mul (n : Nat) (p : Point) : Point :=
  if n = 0 then zero
  else
    let half := mul (n / 2) p
    let even := double half
    if n % 2 = 1 then add even p else even
termination_by n

/-- The 32 bytes of a point: its ordinate, and the parity of its abscissa in the last bit. -/
def encode (p : Point) : Bytes :=
  let inverse := invMod fieldPrime p.z
  let x := p.x * inverse % fieldPrime
  let y := p.y * inverse % fieldPrime
  toLittleEndian 32 (y + x % 2 * signBit)

/-- A square root of `u/v`, of the two the even one, if there is one. -/
def rootOfRatio? (u v : Nat) : Option Nat :=
  let m := fieldPrime
  let v3 := v * v % m * v % m
  let v7 := v3 * v3 % m * v % m
  let r := u * v3 % m * powMod m (u * v7 % m) ((m - 5) / 8) % m
  let check := v * (r * r % m) % m
  let root? :=
    if check = u % m then some r
    else if check = subMod m 0 u then some (r * rootOfMinusOne % m)
    else none
  root?.map fun r => if r % 2 = 1 then m - r else r

/-- The point that 32 bytes denote, if their ordinate belongs to one. -/
def decode? (bs : Bytes) : Option Point :=
  let n := littleEndian bs
  let m := fieldPrime
  let y := n % signBit % m
  let square := y * y % m
  let x? := rootOfRatio? (subMod m square 1) ((curveConstant * square + 1) % m)
  x?.map fun x =>
    let x := if n / signBit % 2 = 1 then subMod m 0 x else x
    ⟨x, y, 1, x * y % m⟩

end Point

/-- The scalar of a secret: the lower half of its digest with the fixed bits put in. -/
def secretScalar (secret : Bytes) : Nat :=
  let n := littleEndian ((sha512 secret).take 32)
  n % (signBit / 2) / 8 * 8 + signBit / 2

/-- The 32 bytes of the public key of a secret of 32 bytes. -/
def publicKey (secret : Bytes) : Bytes := (Point.mul (secretScalar secret) .base).encode

/-- A digest taken for a scalar. -/
def hashScalar (message : Bytes) : Nat := littleEndian (sha512 message) % order

/-- The 64 bytes of the signature of a message under a secret of 32 bytes. -/
def sign (secret message : Bytes) : Bytes :=
  let nonce := hashScalar ((sha512 secret).drop 32 ++ message)
  let commitment := (Point.mul nonce .base).encode
  let challenge := hashScalar (commitment ++ publicKey secret ++ message)
  commitment ++ toLittleEndian 32 ((nonce + challenge * secretScalar secret) % order)

/-- Whether 64 bytes are a signature of a message under a public key, given as its bytes and as
    the point they denote. -/
def verify (keyBytes : Bytes) (key : Point) (message signature : Bytes) : Bool :=
  let commitment := signature.take 32
  let scalar := littleEndian (signature.drop 32)
  let challenge := hashScalar (commitment ++ keyBytes ++ message)
  decide (scalar < order) &&
    (Point.add (Point.mul scalar .base) (Point.mul challenge key.neg)).encode == commitment

end LightningLottery.Ed25519
