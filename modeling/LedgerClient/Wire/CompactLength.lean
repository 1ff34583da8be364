import LedgerClient.Wire.Cursor

/-! # Compact lengths

A length takes one to three bytes: seven bits in each, low bits first, and the
top bit set while more bytes follow. Only the shortest form is accepted, and only
numbers that fit in sixteen bits.
-/

namespace LedgerClient.CompactLength

/-- The most bytes that a length takes. -/
def maxBytes : Nat := 3

/-- The largest length. -/
def maxValue : Nat := 65535

/-- The bytes of a number, with at most one step for each of `steps` more bytes. -/
def encodeWithin : Nat → Nat → List UInt8
  | 0, n => [UInt8.ofNat n]
  | steps + 1, n =>
    if n < 128 then [UInt8.ofNat n]
    else UInt8.ofNat (n % 128 + 128) :: encodeWithin steps (n / 128)

/-- The bytes of a length. -/
def encode (value : UInt16) : List UInt8 := encodeWithin (maxBytes - 1) value.toNat

/-- The bytes of a length of any size, which may be too long. -/
def encode? (length : Nat) : Except LedgerError (List UInt8) :=
  if length ≤ maxValue then .ok (encode (UInt16.ofNat length)) else .error (.lengthOverflow length)

/-- Read a length whose first `place` bytes have given `total`, with at most
`steps` bytes to come. A zero byte after the first would pad the length. -/
def readWithin (total place : Nat) : Nat → Reader UInt16
  | 0 => throw .malformedLength
  | steps + 1 => do
    let next ← Reader.byte
    if 0 < place ∧ next = 0 then
      throw .malformedLength
    let sum := total + next.toNat % 128 * 128 ^ place
    if next.toNat < 128 then
      if sum ≤ maxValue then return UInt16.ofNat sum else throw .malformedLength
    else readWithin sum (place + 1) steps

/-- Read a length. -/
def read : Reader UInt16 := readWithin 0 0 maxBytes

/-- Read a count of elements of `elementSize` bytes or more, and refuse it if so
many cannot be left. Nothing is set aside for a count that is refused. -/
def readCount (what : String) (elementSize : Nat) : Reader Nat := do
  let count := (← read).toNat
  let remaining ← Reader.remaining
  if remaining < count * elementSize then
    throw (.countOverflow what count remaining)
  return count

/-- The length at the front of a buffer and the bytes it takes. -/
def decode (bytes : List UInt8) : Except LedgerError (UInt16 × Nat) :=
  match read (Cursor.ofList bytes) with
  | .ok value reached => .ok (value, reached.position)
  | .error fault _ => .error fault

end LedgerClient.CompactLength
