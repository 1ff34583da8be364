import LedgerClient.Wire.Cursor

/-! # Discriminants

A program with several instructions puts a number in front of each payload to
tell them apart. Programs differ in how they write it.
-/

namespace LedgerClient

/-- How a program writes the number of an instruction. -/
inductive Discriminant where
  /-- In one byte. -/
  | byte
  /-- In four bytes, little-endian. -/
  | word
  /-- Not at all: the program has one instruction. -/
  | absent
deriving DecidableEq

namespace Discriminant

/-- A payload with its number in front. -/
def encode (discriminant : Discriminant) (number : UInt32) (body : List UInt8) :
    Except LedgerError (List UInt8) :=
  match discriminant with
  | byte =>
    if number.toNat < 256 then .ok (number.toUInt8 :: body)
    else .error (.invalidInstruction s!"type id {number} does not fit in a u8")
  | word => .ok (LittleEndian.encode 4 number.toNat ++ body)
  | absent => .ok body

/-- Read the number in front of a payload; a number that is not written is zero. -/
def read : Discriminant → Reader UInt32
  | byte => return (← Reader.byte).toUInt32
  | word => Reader.word32
  | absent => return 0

end Discriminant

end LedgerClient
