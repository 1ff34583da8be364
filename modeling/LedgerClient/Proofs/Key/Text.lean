import LedgerClient.Proofs.Text.Base58
import LedgerClient.Proofs.Transaction.Slots

/-! # The texts of keys

A key, a hash or a signature has one text, and a text stands for one of them at most: it is the
one whose bytes it spells. A text that spells more or fewer bytes is refused, never padded or cut
(`LedgerClient.Base58Value.parse_of_spells`). Secret keys come back from their texts too
(`LedgerClient.SecretKey.parse_text`).
-/

namespace LedgerClient

open Base58 (Spells)

namespace Base58Value

variable {kind : ValueKind} {value : Base58Value kind} {text : String} {bytes : List UInt8}

private theorem ofList_eq_ok_iff : ofList bytes = .ok value ↔ value.toList = bytes := by
  rw [ofList, toList, ← Bytes.ofList?_eq_some_iff]
  cases Bytes.ofList? kind.width bytes with
  | none => simp
  | some held =>
      cases value
      simp

private theorem ofList_of_length_ne (different : bytes.length ≠ kind.width) :
    ofList bytes = (.error (.invalidLength kind.width bytes.length) :
      Except LedgerError (Base58Value kind)) := by
  rw [ofList, Bytes.ofList?_eq_none_iff.mpr different]

/-- A text that spells bytes is read as those bytes are. -/
theorem parse_of_spells (spells : Spells text bytes) :
    (parse text : Except LedgerError (Base58Value kind)) = ofList bytes := by
  rw [parse, Base58.decode_eq_ok_iff.mpr spells]

/-- A text is read as a value exactly if it spells the bytes of the value. -/
theorem parse_eq_ok_iff : parse text = .ok value ↔ Spells text value.toList := by
  constructor
  · intro read
    rw [parse] at read
    cases found : Base58.decode text with
    | error fault =>
        rw [found] at read
        cases read
    | ok bytes =>
        rw [found] at read
        rw [ofList_eq_ok_iff.mp read]
        exact Base58.decode_eq_ok_iff.mp found
  · intro spells
    rw [parse_of_spells spells]
    exact ofList_eq_ok_iff.mpr rfl

/-- The text of a value is the one that spells its bytes. -/
theorem text_eq_iff : value.text = text ↔ Spells text value.toList := Base58.encode_eq_iff

end Base58Value

namespace SecretKey

variable {key : SecretKey} {bytes : List UInt8}

private theorem isOnCurve_of_map_validate {other : SecretKey}
    (accepted : (key.validate.map fun _ => key) = .ok other) :
    other.publicKey.isOnCurve = true := by
  cases valid : key.validate with
  | error fault =>
      rw [valid] at accepted
      cases accepted
  | ok done =>
      rw [valid] at accepted
      cases accepted
      exact validate_eq_ok_iff.mp valid

/-- A secret key that is accepted has its public half on the curve. -/
theorem isOnCurve_of_ofList (accepted : ofList bytes = .ok key) :
    key.publicKey.isOnCurve = true := by
  rw [ofList] at accepted
  split at accepted
  case isTrue => exact isOnCurve_of_map_validate accepted
  case isFalse => cases accepted

/-- A secret key that can be read at all comes back from its text. -/
theorem parse_text (accepted : ofList bytes = .ok key) : parse key.text = .ok key := by
  rw [parse, text, Base58.decode_encode]
  exact ofList_toList (isOnCurve_of_ofList accepted)

end SecretKey

/-- Values of a kind and their texts belong together one to one. -/
structure SpelledOnce (kind : ValueKind) : Prop where
  /-- The text of a value is read as that value, and is the only text that is. -/
  reads : ∀ (text : String) (value : Base58Value kind),
    Base58Value.parse text = .ok value ↔ value.text = text
  /-- It is the big-endian number of the bytes, with a one for each zero byte in front. -/
  spells : ∀ value : Base58Value kind, Spells value.text value.toList
  /-- A text for another number of bytes is refused with that number. -/
  refuses : ∀ (text : String) (bytes : List UInt8), Spells text bytes →
    bytes.length ≠ kind.width → Base58Value.parse text =
      (.error (.invalidLength kind.width bytes.length) : Except LedgerError (Base58Value kind))

/-- **No two texts stand for the same key**, and none for more or fewer bytes than it spells.
Every key, hash, signature and readable secret key comes back from its text. -/
theorem spelledOnce_and_secret : (∀ kind, SpelledOnce kind) ∧
    ∀ (bytes : List UInt8) (key : SecretKey), SecretKey.ofList bytes = .ok key →
      SecretKey.parse key.text = .ok key := by
  refine ⟨fun kind => ⟨?reads, ?spells, ?refuses⟩, fun _ _ => SecretKey.parse_text⟩
  case reads =>
    intro text value
    rw [Base58Value.parse_eq_ok_iff, Base58Value.text_eq_iff]
  case spells => exact fun _ => Base58Value.text_eq_iff.mp rfl
  case refuses =>
    intro text bytes spells different
    rw [Base58Value.parse_of_spells spells]
    exact Base58Value.ofList_of_length_ne different

end LedgerClient
