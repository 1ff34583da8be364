import LedgerClient.Proofs.Wire.LengthForm

/-! # Any operations in any order

A buffer may be asked for anything, in any order and also after something has failed. Each
operation either looks at a number of bytes that is fixed beforehand, and then takes all of them
or leaves its place as it was, or it reads a length, and then goes three bytes ahead at most
before it fails. So a cursor never goes back and never leaves its buffer
(`LedgerClient.Cursor.soundRun`).
-/

namespace LedgerClient

open Reader Cursor

/-- What a cursor can be asked for. -/
inductive Operation where
  | peek (count : Nat)
  | take (count : Nat)
  | fixed (width : Nat)
  | byte
  | word16
  | word32
  | word64
  | length
  | elementCount (what : String) (elementSize : Nat)

namespace Operation

variable {operation : Operation} {width : Nat}

/-- What an operation gives. -/
abbrev Value : Operation → Type
  | .peek _ | .take _ => List UInt8
  | .fixed width => Bytes width
  | .byte => UInt8
  | .word16 => UInt16
  | .word32 => UInt32
  | .word64 => UInt64
  | .length => UInt16
  | .elementCount _ _ => Nat

/-- The reader of an operation. -/
def perform : (operation : Operation) → Reader operation.Value
  | .peek count => Reader.peek count
  | .take count => Reader.take count
  | .fixed width => Reader.fixed width
  | .byte => Reader.byte
  | .word16 => Reader.word16
  | .word32 => Reader.word32
  | .word64 => Reader.word64
  | .length => CompactLength.read
  | .elementCount what elementSize => CompactLength.readCount what elementSize

/-- How many bytes an operation looks at, unless the bytes say so themselves. -/
def width? : Operation → Option Nat
  | .peek count | .take count => some count
  | .fixed width => some width
  | .byte => some 1
  | .word16 => some 2
  | .word32 => some 4
  | .word64 => some 8
  | .length | .elementCount _ _ => none

/-- How many of the bytes that it looks at an operation takes. -/
def stride : Operation → Nat → Nat
  | .peek _, _ => 0
  | _, width => width

/-- The bytes that stand for a value; numbers begin with their least significant byte. -/
def spelling : (operation : Operation) → operation.Value → List UInt8
  | .peek _, bytes | .take _, bytes => bytes
  | .fixed _, field => field.toList
  | .byte, value => [value]
  | .word16, value => LittleEndian.encode 2 value.toNat
  | .word32, value => LittleEndian.encode 4 value.toNat
  | .word64, value => LittleEndian.encode 8 value.toNat
  | .length, value => CompactLength.encode value
  | .elementCount _ _, count => CompactLength.encode (UInt16.ofNat count)

/-! ### One operation -/

private theorem encode_of_window {n : Nat} {window : Bytes width}
    (same : n = LittleEndian.decode window.toList) :
    LittleEndian.encode width n = window.toList := by
  have again := LittleEndian.encode_decode window.toList
  rwa [window.length_toList, ← same] at again

private theorem decode_window_lt (window : Bytes width) :
    LittleEndian.decode window.toList < 256 ^ width := by
  have small := LittleEndian.decode_lt window.toList
  rwa [window.length_toList] at small

/-- An operation whose width is fixed finds the value that these bytes spell. -/
theorem exists_looks (raw : operation.width? = some width) :
    ∃ valueOf : Bytes width → operation.Value,
      Looks operation.perform (operation.stride width) valueOf ∧
        ∀ window, operation.spelling (valueOf window) = window.toList := by
  cases operation with
  | length => cases raw
  | elementCount what elementSize => cases raw
  | peek count =>
      cases raw
      exact ⟨_, looks_peek width, fun _ => rfl⟩
  | take count =>
      cases raw
      exact ⟨_, looks_take width, fun _ => rfl⟩
  | fixed field =>
      cases raw
      exact ⟨_, looks_fixed width, fun _ => rfl⟩
  | byte =>
      cases raw
      refine ⟨_, (looks_number 1).map UInt8.ofNat, fun window => ?_⟩
      obtain ⟨only, split⟩ := List.length_eq_one_iff.mp window.length_toList
      change [UInt8.ofNat (LittleEndian.decode window.toList)] = window.toList
      rw [split]
      simp only [LittleEndian.decode, Nat.mul_zero, Nat.add_zero, UInt8.ofNat_toNat]
  | word16 =>
      cases raw
      refine ⟨_, (looks_number 2).map UInt16.ofNat, fun window => encode_of_window ?_⟩
      exact UInt16.toNat_ofNat_of_lt' (decode_window_lt window)
  | word32 =>
      cases raw
      refine ⟨_, (looks_number 4).map UInt32.ofNat, fun window => encode_of_window ?_⟩
      exact UInt32.toNat_ofNat_of_lt' (decode_window_lt window)
  | word64 =>
      cases raw
      refine ⟨_, (looks_number 8).map UInt64.ofNat, fun window => encode_of_window ?_⟩
      exact UInt64.toNat_ofNat_of_lt' (decode_window_lt window)

/-- **Every operation** stays in the buffer and only goes ahead. -/
theorem guarded_perform (operation : Operation) : Guarded operation.perform := by
  cases raw : operation.width? with
  | some width =>
      obtain ⟨_, looks, _⟩ := exists_looks raw
      exact looks.guarded
  | none =>
      cases operation with
      | length => exact CompactLength.guarded_read
      | elementCount what elementSize => exact CompactLength.guarded_readCount what elementSize
      | _ => cases raw

end Operation

namespace CompactLength

variable {total place steps : Nat}

/-- A length takes a byte at each step at most, whether or not it is one. -/
theorem position_endOf_readWithin_le (start : Cursor) :
    ((readWithin total place steps).endOf start).position ≤ start.position + steps := by
  induction steps generalizing total place start with
  | zero => exact Nat.le_refl _
  | succ steps ih =>
      have ahead : (start.advance 1).position = start.position + 1 := rfl
      cases split : start.rest with
      | nil =>
          rw [endOf_of_error (readWithin_of_nil split)]
          exact Nat.le_add_right _ _
      | cons next rest =>
          have once : (start.advance 1).position ≤ start.position + (steps + 1) :=
            Nat.add_le_add_left (Nat.succ_pos steps) _
          have later := @ih (total + next.toNat % 128 * 128 ^ place) (place + 1) (start.advance 1)
          rw [ahead, endOf] at later
          rw [endOf, readWithin_of_cons split]
          by_cases pads : 0 < place ∧ next = 0
          · rwa [if_pos pads]
          · by_cases last : next.toNat < 128
            · by_cases fits : total + next.toNat % 128 * 128 ^ place ≤ maxValue
              · rwa [if_neg pads, if_pos last, if_pos fits]
              · rwa [if_neg pads, if_pos last, if_neg fits]
            · rw [if_neg pads, if_neg last]
              omega

/-- Whether a count is accepted is seen behind it. -/
theorem endOf_readCount (what : String) (elementSize : Nat) (start : Cursor) :
    (readCount what elementSize).endOf start = read.endOf start := by
  cases outcome : read start with
  | error fault reached =>
      rw [endOf_of_error outcome, readCount, endOf_of_error (bind_of_error outcome)]
  | ok value reached =>
      rw [endOf_of_ok outcome, endOf, readCount, bind_of_ok outcome,
        bind_of_ok (remaining_eq_ok_iff.mpr ⟨rfl, rfl⟩)]
      by_cases few : reached.rest.length < value.toNat * elementSize
      · rw [if_pos few]
        rfl
      · rw [if_neg few]
        rfl

end CompactLength

namespace Operation

variable {operation : Operation}

private theorem position_endOf_perform_le (composite : operation.width? = none) (start : Cursor) :
    (operation.perform.endOf start).position ≤ start.position + 3 := by
  cases operation with
  | length => exact CompactLength.position_endOf_readWithin_le start
  | elementCount what elementSize =>
      rw [perform, CompactLength.endOf_readCount]
      exact CompactLength.position_endOf_readWithin_le start
  | _ => cases composite

/-- A length or a count that is found is one that stands there. -/
theorem takes_of_perform {start reached : Cursor} {value : operation.Value}
    (composite : operation.width? = none) (done : operation.perform start = .ok value reached) :
    start.Takes (operation.spelling value) reached := by
  cases operation with
  | length =>
      obtain ⟨_, rfl, taken⟩ := (CompactLength.reads_read _ _ _).mp done
      exact taken
  | elementCount what elementSize =>
      obtain ⟨⟨_, written, taken⟩, _⟩ := CompactLength.readCount_eq_ok_iff.mp done
      obtain ⟨_, rfl⟩ := CompactLength.encode?_eq_ok_iff.mp written
      exact taken
  | _ => cases composite

/-- **What an operation does** at a place of a buffer. -/
structure SoundAt (operation : Operation) (bytes : List UInt8) (here : Cursor) : Prop where
  /-- It does not go back. -/
  onward : here.position ≤ (operation.perform.endOf here).position
  /-- An operation of a fixed width finds the next bytes and takes them, if it takes any. -/
  found : ∀ width, operation.width? = some width → width ≤ here.remaining →
    ∃ value reached, operation.perform here = .ok value reached ∧
      operation.spelling value = (bytes.drop here.position).take width ∧
      reached.position = here.position + operation.stride width
  /-- Where there are too few, it stays where it is. -/
  refused : ∀ width, operation.width? = some width → here.remaining < width →
    operation.perform here = .error (.truncatedInput width here.remaining) here
  /-- A length or count that is found is what comes next. -/
  spelled : ∀ value reached, operation.width? = none → operation.perform here = .ok value reached →
    operation.spelling value <+: bytes.drop here.position ∧
      reached.position = here.position + (operation.spelling value).length
  /-- One that is not found costs three bytes at most. -/
  strayed : ∀ fault reached, operation.width? = none →
    operation.perform here = .error fault reached → reached.position ≤ here.position + 3

end Operation

namespace Cursor

variable {bytes taken : List UInt8} {start here : Cursor}

/-! ### A run of operations -/

/-- A place in a buffer, which is made up of the bytes before it and those that are left. -/
structure InBuffer (here : Cursor) (bytes : List UInt8) : Prop where
  position_le : here.position ≤ bytes.length
  remaining_add_position : here.remaining + here.position = bytes.length
  rest_eq : here.rest = bytes.drop here.position

/-- A fresh cursor is at the start of its bytes. -/
theorem inBuffer_ofList (bytes : List UInt8) : (ofList bytes).InBuffer bytes :=
  ⟨Nat.zero_le _, rfl, rfl⟩

/-- Taking bytes does not lead out of the buffer. -/
theorem InBuffer.of_takes (inside : start.InBuffer bytes) (reached : start.Takes taken here) :
    here.InBuffer bytes := by
  have counts := inside.remaining_add_position
  have lengths := reached.length_rest
  obtain ⟨split, position⟩ := reached
  rw [start.remaining_eq] at counts
  refine ⟨?_, ?_, ?_⟩
  · omega
  · rw [here.remaining_eq]
    omega
  · rw [position, ← List.drop_drop, ← inside.rest_eq, split, List.drop_left]

/-- The place after some operations, whichever of them succeeded. -/
def after (start : Cursor) (operations : List Operation) : Cursor :=
  operations.foldl (fun here operation => operation.perform.endOf here) start

private theorem after_append (start : Cursor) (operations more : List Operation) :
    start.after (operations ++ more) = (start.after operations).after more :=
  List.foldl_append

/-- **A run takes bytes from the front**, one operation after the other. -/
theorem exists_takes_after (start : Cursor) (operations : List Operation) :
    ∃ taken, start.Takes taken (start.after operations) := by
  induction operations generalizing start with
  | nil => exact ⟨[], takes_nil_iff.mpr rfl⟩
  | cons operation rest ih =>
      obtain ⟨first, before⟩ := operation.guarded_perform.inside start
      obtain ⟨others, behind⟩ := ih (operation.perform.endOf start)
      exact ⟨first ++ others, before.append behind⟩

/-- No run goes back. -/
theorem position_le_after (start : Cursor) (operations : List Operation) :
    start.position ≤ (start.after operations).position := by
  obtain ⟨taken, _, position⟩ := exists_takes_after start operations
  rw [position]
  exact Nat.le_add_right _ _

/-- What an operation does follows from where it stands. -/
theorem InBuffer.soundAt (inside : here.InBuffer bytes) (operation : Operation) :
    operation.SoundAt bytes here where
  onward := position_le_after here [operation]
  found width raw enough := by
    obtain ⟨valueOf, looks, spells⟩ := operation.exists_looks raw
    rw [here.remaining_eq] at enough
    obtain ⟨window, front⟩ := exists_window enough
    refine ⟨_, _, looks.enough here window front, ?_, rfl⟩
    rw [spells, ← inside.rest_eq, List.prefix_iff_eq_take.mp front, window.length_toList]
  refused width raw few := by
    obtain ⟨valueOf, looks, _⟩ := operation.exists_looks raw
    rw [here.remaining_eq] at few ⊢
    exact looks.short here few
  spelled value reached composite done := by
    obtain ⟨split, position⟩ := Operation.takes_of_perform composite done
    refine ⟨?_, position⟩
    rw [← inside.rest_eq, split]
    exact List.prefix_append _ _
  strayed fault reached composite failed := by
    have bound := Operation.position_endOf_perform_le composite here
    rwa [endOf_of_error failed] at bound

/-- **What can be relied on in a run** of operations on a buffer. -/
structure SoundRun (bytes : List UInt8) (operations : List Operation) : Prop where
  inside : ((ofList bytes).after operations).InBuffer bytes
  /-- Any operation may come next. -/
  next : ∀ operation : Operation, operation.SoundAt bytes ((ofList bytes).after operations)
  onward : ∀ more, ((ofList bytes).after operations).position ≤
    ((ofList bytes).after (operations ++ more)).position

/-- **Runs are sound.** After any operations the cursor is in its buffer, where each further one
finds the next bytes or fails where it stands, or three bytes behind at most. -/
theorem soundRun (bytes : List UInt8) (operations : List Operation) :
    SoundRun bytes operations := by
  obtain ⟨taken, reached⟩ := exists_takes_after (ofList bytes) operations
  have inside := (inBuffer_ofList bytes).of_takes reached
  refine ⟨inside, inside.soundAt, fun more => ?_⟩
  rw [after_append]
  exact position_le_after _ _

end Cursor

end LedgerClient
