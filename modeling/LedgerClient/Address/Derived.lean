import LedgerClient.Address.Program
import LedgerClient.Digest.Sha256
import LedgerClient.Key.Secret
import LedgerClient.Text.Utf8

/-! # Addresses that nobody holds a key for

An address derived from seeds and a program is a hash that is not a curve point.
Where the hash happens to be one, a further seed of one byte, the bump, is tried
from 255 down to 1 until it is not.
-/

namespace LedgerClient.Address

/-- The most seeds of a derived address. -/
def maxSeeds : Nat := 16

/-- The most bytes in a seed. -/
def maxSeedLength : Nat := 32

/-- What is hashed after the seeds and the program. -/
def derivationMarker : List UInt8 := Utf8.encode "ProgramDerivedAddress"

/-- Refuse too many seeds, then the first seed that is too long. -/
def checkSeeds (seeds : List (List UInt8)) : Except LedgerError Unit :=
  if maxSeeds < seeds.length then .error (.tooManySeeds seeds.length)
  else
    match seeds.find? fun seed => maxSeedLength < seed.length with
    | some seed => .error (.seedTooLong seed.length)
    | none => .ok ()

/-- The hash of seeds and a program, which may or may not be a curve point. -/
def hashSeeds (seeds : List (List UInt8)) (program : PublicKey) : PublicKey :=
  ⟨Sha256.hash (seeds.flatten ++ program.toList ++ derivationMarker)⟩

/-- The address of exactly these seeds, if their hash is off the curve. -/
def derive (seeds : List (List UInt8)) (program : PublicKey) : Except LedgerError PublicKey := do
  checkSeeds seeds
  let address := hashSeeds seeds program
  if address.isOnCurve then throw .invalidSeeds
  return address

/-- The bumps in the order they are tried. Zero is not among them. -/
def bumps : List UInt8 := (List.range 255).map fun tried => UInt8.ofNat (255 - tried)

/-- The address of the first bump whose hash is off the curve, and that bump. -/
def find (seeds : List (List UInt8)) (program : PublicKey) :
    Except LedgerError (PublicKey × UInt8) := do
  checkSeeds seeds
  let offCurve := fun bump => !(hashSeeds (seeds ++ [[bump]]) program).isOnCurve
  match bumps.find? offCurve with
  | some bump => return (hashSeeds (seeds ++ [[bump]]) program, bump)
  | none => throw .noValidAddress

/-- The token account of a wallet for a mint, and its bump. -/
def findAssociatedToken (wallet mint : PublicKey) : Except LedgerError (PublicKey × UInt8) :=
  find [wallet.toList, tokenProgram.toList, mint.toList] associatedTokenProgram

/-- The address that a base key creates from a seed text for an owner. It may be a
curve point. -/
def withSeed (base : PublicKey) (seed : String) (owner : PublicKey) :
    Except LedgerError PublicKey :=
  let bytes := Utf8.encode seed
  if maxSeedLength < bytes.length then .error (.seedTooLong bytes.length)
  else .ok ⟨Sha256.hash (base.toList ++ bytes ++ owner.toList)⟩

end LedgerClient.Address
