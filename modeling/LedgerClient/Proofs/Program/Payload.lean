import LedgerClient.Proofs.Program.Decode
import LedgerClient.Proofs.Wire.Guarded

/-! # Payloads are exact

An instruction comes back from its accounts and its payload, and nothing but a payload is
decoded: not with its end cut off, not with more behind it, not with a number in front that the
program does not know (`LedgerClient.TypedInstruction.exactPayloads`). That a payload with its
end cut off is none does not depend on the accounts, as some accounts do for all payloads
(`LedgerClient.KnownByKeys.not_decode_front`).
-/

namespace LedgerClient

section Decoders

variable {ι : Type} {named : List PublicKey → ι → Prop} {accounts : ι → List AccountMeta}
  {data : ι → Except LedgerError (List UInt8)} {decode : Decoder ι} {instruction other : ι}
  {listed : List AccountMeta} {bytes front missing : List UInt8}

/-- The decoder of a program goes by the keys of the accounts and by the payload. -/
structure KnownByKeys (named : List PublicKey → ι → Prop) (accounts : ι → List AccountMeta)
    (data : ι → Except LedgerError (List UInt8)) (decode : Decoder ι) : Prop where
  decode_iff : ∀ {listed bytes instruction}, decode listed bytes = .ok instruction ↔
    named (listed.map AccountMeta.key) instruction ∧ data instruction = .ok bytes
  own : ∀ instruction, named ((accounts instruction).map AccountMeta.key) instruction
  /-- Some accounts do for all payloads. -/
  serving : ∃ keys, ∀ instruction, ∃ other, named keys other ∧ data other = data instruction
  lengthened : ∀ {listed bytes more instruction}, decode listed bytes = .ok instruction →
    more ≠ [] → decode listed (bytes ++ more) = .error (.trailingBytes more.length)

namespace KnownByKeys

variable (known : KnownByKeys named accounts data decode)

include known

/-- What is written for an instruction is read back. -/
theorem decode_data (written : data instruction = .ok bytes) :
    decode (accounts instruction) bytes = .ok instruction :=
  known.decode_iff.mpr ⟨known.own instruction, written⟩

/-- A payload with its end cut off is none, whatever accounts come with it. -/
theorem not_decode_front (written : data instruction = .ok (front ++ missing))
    (cut : missing ≠ []) : decode listed front ≠ .ok other := by
  intro decoded
  obtain ⟨keys, serves⟩ := known.serving
  have same : (keys.map (AccountMeta.readonly · false)).map AccountMeta.key = keys := by
    rw [List.map_map]
    exact List.map_id keys
  obtain ⟨short, shortNamed, shortWritten⟩ := serves other
  obtain ⟨full, fullNamed, fullWritten⟩ := serves instruction
  rw [← same] at shortNamed fullNamed
  have shorter := known.decode_iff.mpr
    ⟨shortNamed, shortWritten.trans (known.decode_iff.mp decoded).2⟩
  have longer := known.decode_iff.mpr ⟨fullNamed, fullWritten.trans written⟩
  rw [known.lengthened shorter cut] at longer
  cases longer

end KnownByKeys

/-- **Payloads that are exact.** -/
structure ExactPayloads (discriminant : Discriminant) (numbers : List UInt32)
    (writable : ι → Prop) (accounts : ι → List AccountMeta)
    (data : ι → Except LedgerError (List UInt8)) (decode : Decoder ι) : Prop where
  /-- Which instructions have a payload. -/
  exists_data_iff : ∀ instruction, (∃ bytes, data instruction = .ok bytes) ↔ writable instruction
  decode_data : ∀ instruction bytes, data instruction = .ok bytes →
    decode (accounts instruction) bytes = .ok instruction
  data_of_decode : ∀ listed bytes instruction, decode listed bytes = .ok instruction →
    data instruction = .ok bytes
  /-- What is decoded begins with a number of the program. -/
  numbered : ∀ listed bytes instruction, decode listed bytes = .ok instruction →
    ∃ number ∈ numbers, ∃ body, discriminant.encode number body = .ok bytes
  /-- What is decoded is refused with its end cut off. -/
  shortened : ∀ instruction front missing, data instruction = .ok (front ++ missing) →
    missing ≠ [] → ∀ listed other, decode listed front ≠ .ok other
  /-- What is decoded is refused with more behind it. -/
  lengthened : ∀ listed bytes more instruction, decode listed bytes = .ok instruction →
    more ≠ [] → decode listed (bytes ++ more) = .error (.trailingBytes more.length)

private theorem KnownByKeys.exact_of_numbered {discriminant : Discriminant} {numbers : List UInt32}
    {writable : ι → Prop} (known : KnownByKeys named accounts data decode)
    (writes : ∀ instruction, (∃ bytes, data instruction = .ok bytes) ↔ writable instruction)
    (numbered : ∀ instruction bytes, data instruction = .ok bytes →
      ∃ number ∈ numbers, ∃ body, discriminant.encode number body = .ok bytes) :
    ExactPayloads discriminant numbers writable accounts data decode where
  exists_data_iff := writes
  decode_data := fun _ _ written => known.decode_data written
  data_of_decode := fun _ _ _ decoded => (known.decode_iff.mp decoded).2
  numbered := fun _ _ _ decoded => numbered _ _ (known.decode_iff.mp decoded).2
  shortened := fun _ _ _ written cut _ _ => known.not_decode_front written cut
  lengthened := fun _ _ _ _ decoded some => known.lengthened decoded some

end Decoders

namespace SystemInstruction

/-- The seed of an instruction, if there is one, has at most 32 bytes. -/
def SeedFits : SystemInstruction → Prop
  | createAccountWithSeed _ _ _ seed .. => (Utf8.encode seed).length ≤ Address.maxSeedLength
  | _ => True

/-- A system instruction is written if its seed fits. -/
theorem exists_data_iff (instruction : SystemInstruction) :
    (∃ bytes, instruction.data = .ok bytes) ↔ instruction.SeedFits := by
  simp only [data_eq_ok_iff, Discriminant.encode, Except.ok.injEq]
  cases instruction with
  | createAccountWithSeed funding created base seed lamports space owner =>
      simp only [arguments, SeedFits, ← Nat.not_lt]
      split
      case isTrue long => simp [long]
      case isFalse short => simp [short]
  | createAccount | assign | transfer => simp [arguments, SeedFits]

private theorem knownByKeys : KnownByKeys Named accounts data decode where
  decode_iff := decode_eq_ok_iff
  own := fun _ => named_accounts
  serving := by
    refine ⟨[.zero, .zero], fun instruction => ?_⟩
    cases instruction with
    | createAccount funding created lamports space owner =>
        exact ⟨.createAccount .zero .zero lamports space owner, ⟨rfl, rfl⟩, rfl⟩
    | assign account owner => exact ⟨.assign .zero owner, rfl, rfl⟩
    | transfer source recipient lamports =>
        exact ⟨.transfer .zero .zero lamports, ⟨rfl, rfl⟩, rfl⟩
    | createAccountWithSeed funding created base seed lamports space owner =>
        exact ⟨.createAccountWithSeed .zero .zero base seed lamports space owner, ⟨rfl, rfl⟩, rfl⟩
  lengthened := fun decoded some =>
    (reads_read rfl).run_finish_append (decode_eq_ok_iff.mp decoded) some

private theorem exists_number {instruction : SystemInstruction} {bytes : List UInt8}
    (written : instruction.data = .ok bytes) :
    ∃ number ∈ [0, 1, 2, 3], ∃ body, Discriminant.word.encode number body = .ok bytes := by
  obtain ⟨body, _, encoded⟩ := Outcome.bind_eq_ok_iff.mp written
  refine ⟨instruction.number, ?_, body, encoded⟩
  cases instruction <;> simp [SystemInstruction.number]

end SystemInstruction

namespace TokenInstruction

private theorem knownByKeys : KnownByKeys Named accounts data decode where
  decode_iff := decode_eq_ok_iff
  own := fun _ => named_accounts
  serving := by
    refine ⟨[.zero, .zero, .zero], fun instruction => ?_⟩
    cases instruction with
    | initializeAccount account mint owner =>
        exact ⟨.initializeAccount .zero .zero .zero, ⟨rfl, rfl, rfl⟩, rfl⟩
    | transfer source destination owner signers amount =>
        exact ⟨.transfer .zero .zero .zero [] amount, ⟨rfl, rfl, rfl, rfl⟩, rfl⟩
    | closeAccount account destination owner signers =>
        exact ⟨.closeAccount .zero .zero .zero [], ⟨rfl, rfl, rfl, rfl⟩, rfl⟩
    | syncNative account => exact ⟨.syncNative .zero, rfl, rfl⟩
  lengthened := fun decoded some =>
    (reads_read rfl).run_finish_append (decode_eq_ok_iff.mp decoded) some

private theorem number_mem (instruction : TokenInstruction) :
    instruction.number ∈ [1, 3, 9, 17] := by
  cases instruction <;> simp [TokenInstruction.number]

/-- A token instruction can always be written. -/
theorem exists_data (instruction : TokenInstruction) : ∃ bytes, instruction.data = .ok bytes := by
  cases instruction <;> exact ⟨_, rfl⟩

end TokenInstruction

private theorem AssociatedTokenInstruction.knownByKeys :
    KnownByKeys Named accounts data AssociatedTokenInstruction.decode where
  decode_iff := decode_eq_ok_iff
  own := fun _ => named_accounts
  serving := ⟨[.zero, .zero, .zero, .zero], fun _ =>
    ⟨⟨.zero, .zero, .zero, .zero⟩, ⟨rfl, rfl, rfl, rfl⟩, rfl⟩⟩
  lengthened := by
    intro listed bytes more instruction decoded some
    -- There is one payload, which is empty.
    cases (decode_eq_ok_iff.mp decoded).2
    rw [List.nil_append, AssociatedTokenInstruction.decode, if_pos some]
    rfl

/-- **The payloads of the three programs are exact.** -/
theorem TypedInstruction.exactPayloads :
    ExactPayloads .word [0, 1, 2, 3] SystemInstruction.SeedFits SystemInstruction.accounts
        SystemInstruction.data SystemInstruction.decode ∧
      ExactPayloads .byte [1, 3, 9, 17] (fun _ => True) TokenInstruction.accounts
        TokenInstruction.data TokenInstruction.decode ∧
      ExactPayloads .absent [0] (fun _ => True) AssociatedTokenInstruction.accounts
        AssociatedTokenInstruction.data AssociatedTokenInstruction.decode := by
  refine ⟨SystemInstruction.knownByKeys.exact_of_numbered SystemInstruction.exists_data_iff
    fun _ _ => SystemInstruction.exists_number, ?_, ?_⟩
  · refine TokenInstruction.knownByKeys.exact_of_numbered ?_ ?_
    · exact fun instruction => iff_true_intro instruction.exists_data
    · exact fun instruction _ written => ⟨_, instruction.number_mem, _, written⟩
  · refine AssociatedTokenInstruction.knownByKeys.exact_of_numbered ?_ ?_
    · exact fun _ => iff_true_intro ⟨[], rfl⟩
    · exact fun _ _ written => ⟨0, List.mem_singleton_self 0, [], written⟩

end LedgerClient
