import LedgerClient.Curve.Signing
import LedgerClient.Key.Value

/-! # Secret keys

A secret key is a seed followed by the public key it is for. A key that is read
has a public half on the curve, but its halves need not belong together: signing
finds that out.
-/

namespace LedgerClient

/-- Whether a public key is a curve point. -/
def Base58Value.isOnCurve (key : PublicKey) : Bool := Curve.isOnCurve key.bytes

/-- Check a signature of a message against a public key. -/
def Base58Value.verify (signature : Signature) (key : PublicKey) (message : List UInt8) :
    Except LedgerError Unit :=
  match Curve.Point.decompress? key.bytes with
  | none => .error .notOnCurve
  | some point =>
    if Curve.verifyWith key.bytes point message signature.bytes then .ok ()
    else .error (.signatureVerification key.text)

/-- A seed and a public key. -/
structure SecretKey where
  seed : Bytes 32
  publicKey : PublicKey
deriving DecidableEq

namespace SecretKey

/-- Bytes in a secret key. -/
def size : Nat := 64

/-- The bytes of a secret key: the seed, then the public key. -/
def toList (key : SecretKey) : List UInt8 := key.seed.toList ++ key.publicKey.toList

/-- The key pair of a seed. -/
def ofSeed (seed : Bytes 32) : SecretKey := ⟨seed, ⟨Curve.publicOfSeed seed⟩⟩

/-- Check that the public half is a curve point. -/
def validate (key : SecretKey) : Except LedgerError Unit :=
  if key.publicKey.isOnCurve then .ok () else .error .notOnCurve

/-- The key that a byte list holds, if it has the right size and a public half on
the curve. -/
def ofList (bytes : List UInt8) : Except LedgerError SecretKey :=
  if fits : bytes.length = 64 then
    let key : SecretKey :=
      ⟨⟨bytes.take 32, by rw [List.length_take, fits]; rfl⟩,
        ⟨⟨bytes.drop 32, by rw [List.length_drop, fits]⟩⟩⟩
    key.validate.map fun _ => key
  else .error (.invalidKeySize bytes.length)

/-- The key that a text spells. -/
def parse (text : String) : Except LedgerError SecretKey :=
  match Base58.decode text with
  | .ok bytes => ofList bytes
  | .error fault => .error (.invalidBase58 fault.message)

/-- The text of a key, which is secret. -/
def text (key : SecretKey) : String := Base58.encode key.toList

/-- A diagnostic that shows the public half only. -/
def debugText (key : SecretKey) : String :=
  let shown := key.publicKey.text
  s!"PrivateKey(public={shown})"

/-- The signature of a message. The seed must give the public half. -/
def sign (key : SecretKey) (message : List UInt8) : Except LedgerError Signature := do
  key.validate
  if Curve.publicOfSeed key.seed ≠ key.publicKey.bytes then
    throw .keypairMismatch
  return ⟨Curve.signWith key.seed key.publicKey.bytes message⟩

end SecretKey

end LedgerClient
