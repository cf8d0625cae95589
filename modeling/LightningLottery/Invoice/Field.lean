/-
  The tagged fields of a payment request.

  * `Field`: what a field says; fields of unknown tags or lengths say nothing.
  * `Field.parse`: reads the words of one field.
  * `fieldsOfWords`: reads a word sequence as fields: a tag, a length of two words, and as many
    words as the length says.
-/
import LightningLottery.Curve.Secp256k1
import LightningLottery.Invoice.Amount

namespace LightningLottery

/-- What a tagged field says. -/
inductive Field where
  | paymentHash (hash : Bytes)
  | description (text : String)
  | descriptionHash (hash : Bytes)
  | paymentSecret (secret : Bytes)
  | payee (key : Bytes)
  | expiry (seconds : Nat)
  | minFinalCltvExpiryDelta (blocks : Nat)
  | features (bits : Nat)
  | fallback (version : Nat) (program : Bytes)
  | route (hops : Bytes)
  | metadata (bytes : Bytes)
  /-- A field that is passed over. -/
  | ignored
  deriving DecidableEq, Repr

namespace Field

/-- The number of words that carry a hash or secret of 32 bytes. -/
def hashWords : Nat := 52

/-- The number of words that carry a compressed key of 33 bytes. -/
def keyWords : Nat := 53

/-- The number of bytes of one hop of a route: a key, a channel id, two fees and a delay. -/
def hopLength : Nat := 51

/-- The number of bytes of a compressed key. -/
def compressedKeyLength : Nat := 33

/-- The number of bytes of a public key hash or script hash. -/
def shortHashLength : Nat := 20

/-- The bytes of a field, which must be filled up with zero bits to a word. -/
def bytes (ws : List Word) : Except InvoiceFault Bytes :=
  match exactBytes? ws with
  | some bs => .ok bs
  | none => .error .padding

/-- A number of at most 64 bits. -/
def number (ws : List Word) : Except InvoiceFault Nat :=
  if wordNumber ws < wordLimit then .ok (wordNumber ws) else .error .integerOverflow

/-- A field of a fixed number of words; one of another length is passed over. -/
def sized (length : Nat) (make : Bytes → Except InvoiceFault Field) (ws : List Word) :
    Except InvoiceFault Field :=
  if ws.length = length then (bytes ws).bind make else .ok .ignored

/-- A fallback address: a version word and its program. -/
def parseFallback : List Word → Except InvoiceFault Field
  | [] => .error .fieldCutShort
  | version :: ws => do
    let program ← bytes ws
    if version.toNat ≤ 16 then
      if 2 ≤ program.length && program.length ≤ 40 then .ok (.fallback version.toNat program)
      else .error .witnessProgramLength
    else if version.toNat = 17 then
      if program.length = shortHashLength then .ok (.fallback 17 program)
      else .error .publicKeyHashLength
    else if version.toNat = 18 then
      if program.length = shortHashLength then .ok (.fallback 18 program)
      else .error .scriptHashLength
    else .ok .ignored

/-- Whether each hop of a route begins with a key. -/
def hopsHaveKeys : Nat → Bytes → Bool
  | 0, _ => true
  | hops + 1, bs =>
    (Secp256k1.parseKey? (bs.take compressedKeyLength)).isSome
      && hopsHaveKeys hops (bs.drop hopLength)

/-- A route of whole hops. -/
def parseRoute (ws : List Word) : Except InvoiceFault Field := do
  let bs ← bytes ws
  if bs.length % hopLength ≠ 0 then .error .fieldCutShort
  else if hopsHaveKeys (bs.length / hopLength) bs then .ok (.route bs)
  else .error .malformedPublicKey

/-- A description, which must be UTF-8. -/
def parseDescription (ws : List Word) : Except InvoiceFault Field := do
  let bs ← bytes ws
  match Utf8.decode bs with
  | .ok text => .ok (.description text)
  | .error fault => .error (.descriptionText fault)

/-- A payee, which must be a point of the curve. -/
def parsePayee (bs : Bytes) : Except InvoiceFault Field :=
  if (Secp256k1.parseKey? bs).isSome then .ok (.payee bs) else .error .malformedPublicKey

/-- Reads the field of a tag. Each case names the character of its tag. -/
def parse (tag : Word) (ws : List Word) : Except InvoiceFault Field :=
  match Bech32.charOf tag with
  | 'p' => sized hashWords (fun bs => .ok (.paymentHash bs)) ws
  | 'd' => parseDescription ws
  | 'h' => sized hashWords (fun bs => .ok (.descriptionHash bs)) ws
  | 's' => sized hashWords (fun bs => .ok (.paymentSecret bs)) ws
  | 'n' => sized keyWords parsePayee ws
  | 'x' => (number ws).map .expiry
  | 'c' => (number ws).map .minFinalCltvExpiryDelta
  | '9' => .ok (.features (wordNumber ws))
  | 'f' => parseFallback ws
  | 'r' => parseRoute ws
  | 'm' => (bytes ws).map .metadata
  | _ => .ok .ignored

end Field

/-- The fields of a word sequence. -/
def fieldsOfWords (ws : List Word) : Except InvoiceFault (List Field) :=
  match ws with
  | [] => .ok []
  | tag :: hi :: lo :: rest =>
    let length := wordNumber [hi, lo]
    if rest.length < length then .error .fieldCutShort
    else do
      let field ← Field.parse tag (rest.take length)
      let fields ← fieldsOfWords (rest.drop length)
      return field :: fields
  | _ => .error .fieldCutShort
termination_by ws.length
decreasing_by simp only [List.length_cons, List.length_drop]; omega

end LightningLottery
