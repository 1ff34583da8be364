import LedgerClient.Proofs.Text.Base64
import LedgerClient.Wire.Armor

/-! # One text for each wire form

The text of a byte list is the one text from which it is read
(`LedgerClient.Armor.decode_eq_ok_iff`).
-/

namespace LedgerClient.Armor

variable {bytes : List UInt8} {text : String}

/-- A sign below 128 is one byte in a text. -/
theorem utf8Encode_ofUInt8 {sign : UInt8} (small : sign.toNat < 128) :
    String.utf8EncodeChar (Char.ofUInt8 sign) = [sign] := by
  have single : (Char.ofUInt8 sign).utf8Size = 1 := by
    rw [Char.utf8Size_eq_one_iff, UInt32.le_iff_toNat_le]
    change sign.toUInt32.toNat ≤ 127
    rw [UInt8.toNat_toUInt32]
    exact Nat.le_of_lt_succ small
  rw [String.utf8EncodeChar_eq_singleton single]
  change [sign.toUInt32.toUInt8] = [sign]
  rw [UInt8.toUInt8_toUInt32]

private theorem utf8Encode_ofList {signs : List UInt8} (small : ∀ sign ∈ signs, sign.toNat < 128) :
    Utf8.encode (String.ofList (signs.map Char.ofUInt8)) = signs := by
  rw [Utf8.encode, String.toByteArray_ofList, List.utf8Encode, List.data_toByteArray,
    List.toList_toArray, List.flatMap_map]
  induction signs with
  | nil => rfl
  | cons sign signs ih =>
      rw [List.forall_mem_cons] at small
      rw [List.flatMap_cons, utf8Encode_ofUInt8 small.1, ih small.2]
      rfl

/-- The text of a byte list, as bytes, is its Base64 text. -/
theorem encode_eq_iff : encode bytes = text ↔ Base64.Spells (Utf8.encode text) bytes := by
  have same : Utf8.encode (encode bytes) = Base64.encode bytes :=
    utf8Encode_ofList (Base64.toNat_lt_of_spells (Base64.spells_encode bytes))
  rw [← Base64.encode_eq_iff, ← same]
  constructor
  · rintro rfl
    rfl
  · intro written
    have read := Utf8.decode_encode (encode bytes)
    rw [written, Utf8.decode_encode] at read
    exact (Except.ok.inj read).symm

/-- **A text is read as the byte list** whose text it is. -/
theorem decode_eq_ok_iff : decode text = .ok bytes ↔ encode bytes = text := by
  rw [encode_eq_iff, ← Base64.decode_eq_ok_iff, decode]
  cases Base64.decode (Utf8.encode text) with
  | ok found =>
      constructor
      · intro read
        cases read
        rfl
      · intro read
        cases read
        rfl
  | error fault =>
      constructor
      · intro impossible
        cases impossible
      · intro impossible
        cases impossible

end LedgerClient.Armor
