import LedgerClient.Proofs.Message.Sendable
import LedgerClient.Proofs.Program.Decode

/-! # Typed instructions survive a message

Instructions of the known programs are compiled into a message, written and read back. With the
tables of the options attached and the lookups resolved, each program reads its instructions from
the message, and they are the ones that went in
(`LedgerClient.Message.typedInstructions_of_serialize`).
-/

namespace LedgerClient

namespace Message

variable {typed : List TypedInstruction} {blockhash : Hash} {options : CompileOptions}
  {feePayer : PublicKey} {message : Message} {bytes : List UInt8}

/-- The instructions of a message with all its keys, as their programs read them. -/
def typedInstructions (message : Message) : Except LedgerError (List TypedInstruction) :=
  message.instructions.mapM fun compiled => do
    let program ← compiled.programKey message
    let accounts ← compiled.resolveAccounts message
    TypedInstruction.registry.decode program accounts compiled.data

/-- A faithful message gives back the typed instructions. -/
theorem Faithful.typedInstructions_eq
    (faithful : message.Faithful feePayer (typed.map TypedInstruction.toInstruction)) :
    message.typedInstructions = .ok typed := by
  have restored := faithful.compiled
  rw [List.forall₂_map_left_iff] at restored
  rw [typedInstructions, Outcome.mapM_eq_ok_iff]
  refine (restored.imp ?_).flip
  intro instruction compiled restores
  obtain ⟨accounts, resolved, same⟩ := restores.accounts
  simp only [Outcome.bind_eq_ok_iff]
  exact ⟨_, restores.program, accounts, resolved,
    TypedInstruction.decode_registry same restores.data⟩

/-- **Typed instructions come back** from the bytes of their message, if no table is listed
twice. -/
theorem typedInstructions_of_serialize (distinct : (options.addressTables.map Prod.fst).Nodup)
    (done : compile (typed.map TypedInstruction.toInstruction) blockhash options = .ok message)
    (written : message.serialize = .ok bytes) :
    deserialize bytes = .ok message ∧ ∃ attached resolved,
      message.setAddressTables options.tables = .ok attached ∧
        attached.resolveLookups = .ok resolved ∧ resolved.typedInstructions = .ok typed := by
  obtain ⟨feePayer, layout, _, unset, listed, sound, follows⟩ := exists_follows done
  have attaches : ∀ entry ∈ layout.tables, options.tables.find? entry.1 = some entry.2 := by
    rw [listed]
    intro entry member
    exact AddressTables.find?_ofList_of_mem distinct member
  obtain ⟨attached, resolved, set, resolves, faithful⟩ :=
    follows.exists_faithful sound unset (sound.heldIn attaches)
  refine ⟨?_, attached, resolved, set, resolves, faithful.typedInstructions_eq⟩
  have valid := follows.validate_header sound
  exact deserialize_eq_ok_iff.mpr ⟨⟨unset, follows.unresolved, valid⟩, written⟩

/-- A wallet pays for its own token account, fills it and makes its balance known. -/
def wrapping : List TypedInstruction :=
  [.associatedToken ⟨uniformKey 1, uniformKey 2, uniformKey 1, Address.nativeMint⟩,
    .system (.transfer (uniformKey 1) (uniformKey 2) 5), .token (.syncNative (uniformKey 2))]

/-- The token account and the mint come from a table. -/
def wrappingOptions : CompileOptions :=
  ⟨none, [(uniformKey 9, [Address.nativeMint, uniformKey 2])], none⟩

/-- The message of the wrapping. -/
def wrappingMessage : Message :=
  ofParts .v0 ⟨1, 0, 4⟩
    [uniformKey 1, Address.systemProgram, Address.tokenProgram, Address.rent,
      Address.associatedTokenProgram] .zero
    [⟨4, [0, 5, 0, 6, 1, 2, 3], []⟩, ⟨1, [0, 5], [2, 0, 0, 0, 5, 0, 0, 0, 0, 0, 0, 0]⟩,
      ⟨2, [5], [17]⟩] [⟨uniformKey 9, [1], [0]⟩]

/-- The bytes of that message. -/
def wrappingBytes : List UInt8 :=
  [128, 1, 0, 4, 5] ++ wrappingMessage.keys.flatMap (·.toList) ++ List.replicate 32 0 ++
    [3, 4, 7, 0, 5, 0, 6, 1, 2, 3, 0, 1, 2, 0, 5, 12, 2, 0, 0, 0, 5, 0, 0, 0, 0, 0, 0, 0,
      2, 1, 5, 1, 17, 1] ++ List.replicate 32 9 ++ [1, 1, 1, 0]

set_option maxRecDepth 1000 in
/-- Instructions of three programs in one message that uses a table. -/
theorem typedInstructions_wrapping :
    (wrappingOptions.addressTables.map Prod.fst).Nodup ∧
      compile (wrapping.map TypedInstruction.toInstruction) .zero wrappingOptions =
        .ok wrappingMessage ∧ wrappingMessage.serialize = .ok wrappingBytes ∧
      deserialize wrappingBytes = .ok wrappingMessage ∧ ∃ attached resolved,
        wrappingMessage.setAddressTables wrappingOptions.tables = .ok attached ∧
          attached.resolveLookups = .ok resolved ∧ resolved.typedInstructions = .ok wrapping := by
  have distinct : (wrappingOptions.addressTables.map Prod.fst).Nodup := by decide
  have done : compile (wrapping.map TypedInstruction.toInstruction) .zero wrappingOptions =
      .ok wrappingMessage := rfl
  have written : wrappingMessage.serialize = .ok wrappingBytes := rfl
  exact ⟨distinct, done, written, typedInstructions_of_serialize distinct done written⟩

end Message

end LedgerClient
