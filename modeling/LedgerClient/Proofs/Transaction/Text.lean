import LedgerClient.Proofs.Transaction.Wire
import LedgerClient.Proofs.Wire.Armor

/-! # One text for each message and transaction

A message or transaction has one Base64 text: the text of its bytes is read as it, if it is as
messages are read, and no other text is (`LedgerClient.Armor.oneText_message_and_transaction`).
-/

namespace LedgerClient.Armor

variable {α : Type} {readable : α → Prop} {serialize : α → Except LedgerError (List UInt8)}
  {deserialize : List UInt8 → Except LedgerError α}

/-- **Values with one text each.** -/
structure OneText (readable : α → Prop) (serialize : α → Except LedgerError (List UInt8))
    (toText : α → Except LedgerError String) (ofText : String → Except LedgerError α) : Prop where
  /-- What is read from a text is a value with that text. A value has one text at most, so no
  other text is read as it. -/
  reads : ∀ text value, ofText text = .ok value ↔ readable value ∧ toText value = .ok text
  /-- The text spells the bytes, and nothing else. -/
  spells : ∀ value text, toText value = .ok text ↔
    ∃ bytes, serialize value = .ok bytes ∧ Base64.Spells (Utf8.encode text) bytes

/-- A value known by its bytes is known by their text. -/
theorem oneText_of_reads (reads : ∀ bytes value,
      deserialize bytes = .ok value ↔ readable value ∧ serialize value = .ok bytes) :
    OneText readable serialize (fun value => (serialize value).map encode)
      (fun text => decode text >>= deserialize) := by
  have written (value : α) (text : String) : (serialize value).map encode = .ok text ↔
      ∃ bytes, serialize value = .ok bytes ∧ encode bytes = text := by
    cases serialize value with
    | ok bytes => simp [Except.map]
    | error fault => simp [Except.map]
  constructor
  · intro text value
    simp only [Outcome.bind_eq_ok_iff, decode_eq_ok_iff, reads, written]
    constructor
    · rintro ⟨bytes, spelled, found, same⟩
      exact ⟨found, bytes, same, spelled⟩
    · rintro ⟨found, bytes, same, spelled⟩
      exact ⟨bytes, spelled, found, same⟩
  · intro value text
    simp only [written, encode_eq_iff]

/-- **A message and a transaction have one Base64 text**, written and read. -/
theorem oneText_message_and_transaction :
    OneText Message.Readable Message.serialize Message.toBase64 Message.ofBase64 ∧
      OneText (fun transaction : Transaction => transaction.message.Readable)
        Transaction.serialize Transaction.toBase64 Transaction.ofBase64 :=
  ⟨oneText_of_reads fun _ _ => Message.deserialize_eq_ok_iff,
    oneText_of_reads fun _ _ => Transaction.deserialize_eq_ok_iff⟩

end LedgerClient.Armor
