import LedgerClient.Bytes
import LedgerClient.Error.Basic

/-! # Reading a byte buffer from front to back

A cursor holds what is left of a buffer and how much has been taken. Every read
is checked against what is left before anything is taken, so a read of more bytes
than there are fails and leaves the cursor where it was. A read made of several
steps that fails keeps the steps it has made.
-/

namespace LedgerClient

/-- A place in a byte buffer. -/
structure Cursor where
  /-- Bytes taken so far. -/
  position : Nat
  /-- Bytes not taken yet. -/
  rest : List UInt8
  /-- How many bytes are not taken yet. -/
  remaining : Nat
  /-- The count is kept right. -/
  remaining_eq : remaining = rest.length

namespace Cursor

/-- The start of a buffer. -/
def ofList (bytes : List UInt8) : Cursor := ⟨0, bytes, bytes.length, rfl⟩

/-- Whether all bytes have been taken. -/
def isEmpty (cursor : Cursor) : Bool := cursor.remaining == 0

/-- The cursor after `count` more bytes have been taken. -/
def advance (cursor : Cursor) (count : Nat) : Cursor :=
  ⟨cursor.position + count, cursor.rest.drop count, cursor.remaining - count, by
    rw [List.length_drop, cursor.remaining_eq]⟩

end Cursor

/-- A read: a value or an error, and the place reached either way. -/
abbrev Reader := EStateM LedgerError Cursor

namespace Reader

/-- The next `count` bytes, which stay in place. -/
def peek (count : Nat) : Reader (List UInt8) := fun cursor =>
  if cursor.remaining < count then .error (.truncatedInput count cursor.remaining) cursor
  else .ok (cursor.rest.take count) cursor

/-- Take the next `count` bytes. -/
def take (count : Nat) : Reader (List UInt8) := fun cursor =>
  if cursor.remaining < count then .error (.truncatedInput count cursor.remaining) cursor
  else .ok (cursor.rest.take count) (cursor.advance count)

/-- Take a field of a fixed width. -/
def fixed (width : Nat) : Reader (Bytes width) := fun cursor =>
  if short : cursor.remaining < width then
    .error (.truncatedInput width cursor.remaining) cursor
  else
    have enough : (cursor.rest.take width).length = width := by
      rw [List.length_take, ← cursor.remaining_eq]
      omega
    .ok ⟨cursor.rest.take width, enough⟩ (cursor.advance width)

/-- Take a little-endian number of `width` bytes. -/
def number (width : Nat) : Reader Nat := do
  return LittleEndian.decode (← take width)

/-- Take one byte. -/
def byte : Reader UInt8 := do
  return UInt8.ofNat (← number 1)

/-- Take a number of two bytes. -/
def word16 : Reader UInt16 := do
  return UInt16.ofNat (← number 2)

/-- Take a number of four bytes. -/
def word32 : Reader UInt32 := do
  return UInt32.ofNat (← number 4)

/-- Take a number of eight bytes. -/
def word64 : Reader UInt64 := do
  return UInt64.ofNat (← number 8)

/-- A value that was found without reading, or the reason there is none. -/
def ofExcept {α : Type} (found : Except LedgerError α) : Reader α := fun cursor =>
  match found with
  | .ok value => .ok value cursor
  | .error fault => .error fault cursor

/-- How many bytes are left. -/
def remaining : Reader Nat := fun cursor => .ok cursor.remaining cursor

/-- Read `count` values one after the other, after values already read in
reverse. -/
def timesOnto {α : Type} (read : Reader α) (found : List α) : Nat → Reader (List α)
  | 0, cursor => .ok found.reverse cursor
  | count + 1, cursor =>
    match read cursor with
    | .ok value next => timesOnto read (value :: found) count next
    | .error fault next => .error fault next

/-- Read `count` values one after the other. -/
def times {α : Type} (count : Nat) (read : Reader α) : Reader (List α) := timesOnto read [] count

/-- Fail if bytes are left. -/
def finish : Reader Unit := fun cursor =>
  if cursor.isEmpty then .ok () cursor else .error (.trailingBytes cursor.remaining) cursor

/-- The value that a whole buffer spells. -/
def run {α : Type} (read : Reader α) (bytes : List UInt8) : Except LedgerError α :=
  match read (Cursor.ofList bytes) with
  | .ok value _ => .ok value
  | .error fault _ => .error fault

end Reader

end LedgerClient
