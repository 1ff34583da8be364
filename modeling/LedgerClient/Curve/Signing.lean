import LedgerClient.Curve.Point
import LedgerClient.Digest.Sha512

/-! # Signatures over the curve

A 32-byte seed gives a secret number and a prefix; the public key is the base
point scaled by the number. A signature is a point followed by a number below the
group order. Signing draws on nothing but the seed and the message, so it is
deterministic.
-/

namespace LedgerClient.Curve

/-- What a seed expands to. -/
structure Expanded where
  scalar : Nat
  nonceKey : List UInt8

/-- The number that 64 digest bytes spell, modulo the group order. -/
def reduceDigest (bytes : List UInt8) : Nat :=
  LittleEndian.decode (Sha512.hash bytes).toList % groupOrder

/-- Expand a seed. Of the secret number the three low bits and the top bit are
cleared and the bit below the top one is set. -/
def Expanded.ofSeed (seed : Bytes 32) : Expanded :=
  let digest := (Sha512.hash seed.toList).toList
  let number := LittleEndian.decode (digest.take 32)
  ⟨number % 2 ^ 254 / 8 * 8 + 2 ^ 254, digest.drop 32⟩

/-- The public key of a seed. -/
def publicOfSeed (seed : Bytes 32) : Bytes 32 :=
  (Point.base.scale (Expanded.ofSeed seed).scalar).compress

/-- The signature of a message under a seed, made for a given public key. -/
def signWith (seed publicKey : Bytes 32) (message : List UInt8) : Bytes 64 :=
  let secret := Expanded.ofSeed seed
  let nonce := reduceDigest (secret.nonceKey ++ message)
  let commitment := (Point.base.scale nonce).compress
  let challenge := reduceDigest (commitment.toList ++ publicKey.toList ++ message)
  let response := (nonce + challenge * secret.scalar) % groupOrder
  ⟨commitment.toList ++ LittleEndian.encode 32 response, by simp⟩

/-- Whether a signature holds for a public key that is a point. The number must be
below the group order, and the point is recomputed and compared byte by byte. -/
def verifyWith (publicKey : Bytes 32) (key : Point) (message : List UInt8)
    (signature : Bytes 64) : Bool :=
  let commitment := signature.toList.take 32
  let response := LittleEndian.decode (signature.toList.drop 32)
  if response < groupOrder then
    let challenge := reduceDigest (commitment ++ publicKey.toList ++ message)
    let expected := (Point.base.scale response).add (key.neg.scale challenge)
    expected.compress.toList == commitment
  else false

end LedgerClient.Curve
