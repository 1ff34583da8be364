/-! # Text as bytes

Text travels as UTF-8. Reading is strict: a byte list that is not UTF-8 is
refused with the place of its first fault. Writing and reading are inverse
(`Utf8.decode_encode`, `Utf8.encode_of_decode_eq_ok`).
-/

namespace LedgerClient.Utf8

/-- Where a byte list stops being UTF-8. -/
inductive Fault where
  /-- The `length` bytes from `index` on begin no character. -/
  | invalid (length index : Nat)
  /-- The input ends inside the character that begins at `index`. -/
  | incomplete (index : Nat)
deriving DecidableEq

/-- The wording of a fault. -/
def Fault.message : Fault → String
  | .invalid length index => s!"invalid utf-8 sequence of {length} bytes from index {index}"
  | .incomplete index => s!"incomplete utf-8 byte sequence from index {index}"

/-- A character that has begun: the bytes seen of it, the bytes it still needs,
and the range the next of them must lie in. -/
structure Pending where
  seen : Nat
  owed : Nat
  low : UInt8
  high : UInt8

/-- Between two characters. -/
def Pending.none : Pending := ⟨0, 0, 0, 0⟩

/-- What a first byte asks for. Overlong forms, surrogates and numbers past the
last code point are kept out by the range of the second byte. -/
def Pending.afterLead (lead : UInt8) : Option Pending :=
  if lead < 0x80 then some .none
  else if lead < 0xc2 then Option.none
  else if lead < 0xe0 then some ⟨1, 1, 0x80, 0xbf⟩
  else if lead = 0xe0 then some ⟨1, 2, 0xa0, 0xbf⟩
  else if lead = 0xed then some ⟨1, 2, 0x80, 0x9f⟩
  else if lead < 0xf0 then some ⟨1, 2, 0x80, 0xbf⟩
  else if lead = 0xf0 then some ⟨1, 3, 0x90, 0xbf⟩
  else if lead < 0xf4 then some ⟨1, 3, 0x80, 0xbf⟩
  else if lead = 0xf4 then some ⟨1, 3, 0x80, 0x8f⟩
  else Option.none

/-- The first fault of a byte list that continues the character begun at
`index`; the end of the input counts as one. -/
def faultFrom (index : Nat) (pending : Pending) : List UInt8 → Fault
  | [] => .incomplete index
  | byte :: rest =>
    if pending.owed = 0 then
      match Pending.afterLead byte with
      | none => .invalid 1 index
      | some next => faultFrom (if next.owed = 0 then index + 1 else index) next rest
    else if pending.low ≤ byte ∧ byte ≤ pending.high then
      if pending.owed = 1 then faultFrom (index + pending.seen + 1) .none rest
      else faultFrom index ⟨pending.seen + 1, pending.owed - 1, 0x80, 0xbf⟩ rest
    else .invalid pending.seen index

/-- The bytes of a text. -/
def encode (text : String) : List UInt8 := text.toByteArray.data.toList

/-- The text that a byte list spells, or its first fault. -/
def decode (bytes : List UInt8) : Except Fault String :=
  match String.fromUTF8? ⟨bytes.toArray⟩ with
  | some text => .ok text
  | none => .error (faultFrom 0 .none bytes)

/-- Reading returns what was written. -/
@[simp] theorem decode_encode (text : String) : decode (encode text) = .ok text := by
  have valid : text.toByteArray.IsValidUTF8 := text.isValidUTF8
  simp [decode, encode, String.fromUTF8?, valid, String.fromUTF8]

/-- What reads as a text is how that text is written. -/
theorem encode_of_decode_eq_ok {bytes : List UInt8} {text : String}
    (read : decode bytes = .ok text) : encode text = bytes := by
  unfold decode at read
  split at read
  · rename_i found decoded
    cases read
    unfold String.fromUTF8? at decoded
    split at decoded
    · cases decoded
      simp [encode, String.fromUTF8]
    · cases decoded
  · cases read

end LedgerClient.Utf8
