import LedgerClient.Program.Registry
import LedgerClient.Proofs.Wire.Reader

/-! # Instructions come back from their payloads

A decoder takes the keys of its accounts by their places and the rest from the payload. It gives
an instruction exactly where the keys are those of the instruction and the payload is its own
(`LedgerClient.SystemInstruction.decode_eq_ok_iff`,
`LedgerClient.TokenInstruction.decode_eq_ok_iff`,
`LedgerClient.AssociatedTokenInstruction.decode_eq_ok_iff`).
-/

namespace LedgerClient

open Reader (Reads reads_pure reads_ofExcept reads_throw reads_take reads_fixed reads_byte
  reads_word32 reads_word64)

namespace AccountMeta

variable {accounts : List AccountMeta} {index : Nat} {role : String} {key : PublicKey}

private theorem lookup_eq_ok_iff :
    lookup accounts index role = .ok key ↔ (accounts.map AccountMeta.key)[index]? = some key := by
  rw [lookup, List.getElem?_map]
  cases accounts[index]? <;> simp

/-- An account is known by its key, and none of the payload is read for it. -/
theorem reads_lookup {keys : List PublicKey} (same : accounts.map AccountMeta.key = keys)
    (index : Nat) (role : String) : (Reader.ofExcept (lookup accounts index role)).Reads
      fun key bytes => keys[index]? = some key ∧ bytes = [] := by
  refine reads_ofExcept.congr ?_
  intro key bytes
  rw [lookup_eq_ok_iff, same]

end AccountMeta

namespace Discriminant

variable {discriminant : Discriminant} {number : UInt32} {body bytes : List UInt8}

private theorem encode_eq_ok_iff : discriminant.encode number body = .ok bytes ↔
    ∃ front, discriminant.encode number [] = .ok front ∧ bytes = front ++ body := by
  cases discriminant with
  | byte =>
      by_cases small : number.toNat < 256
      · simp [encode, small, eq_comm]
      · simp [encode, small]
  | word => simp [encode, eq_comm]
  | absent => simp [encode, eq_comm]

/-- A number that is written is read as it is written. -/
theorem reads_read (written : discriminant ≠ .absent) :
    discriminant.read.Reads fun number bytes => discriminant.encode number [] = .ok bytes := by
  cases discriminant with
  | byte =>
      refine (reads_byte.bind fun value => reads_pure).congr ?_
      intro number bytes
      constructor
      · rintro ⟨value, _, _, rfl, ⟨rfl, rfl⟩, rfl⟩
        simp [encode, value.toNat_lt]
      · intro encoded
        simp only [encode] at encoded
        split at encoded
        case isTrue small =>
          cases encoded
          refine ⟨_, _, [], rfl, ⟨?_, rfl⟩, rfl⟩
          rw [← UInt32.toNat_inj, UInt8.toNat_toUInt32, UInt32.toNat_toUInt8,
            Nat.mod_eq_of_lt small]
        case isFalse => cases encoded
  | word =>
      refine reads_word32.congr ?_
      intro number bytes
      simp [encode, eq_comm]
  | absent => exact (written rfl).elim

end Discriminant

namespace SystemInstruction

private theorem reads_readKey : readKey.Reads fun key bytes => bytes = key.toList := by
  refine ((reads_fixed 32).bind fun bytes => reads_pure).congr ?_
  intro key bytes
  constructor
  · rintro ⟨field, _, _, rfl, ⟨rfl, rfl⟩, rfl⟩
    exact List.append_nil _
  · rintro rfl
    exact ⟨key.bytes, _, [], rfl, ⟨rfl, rfl⟩, (List.append_nil _).symm⟩

/-- A seed is read with its length in front, if a seed may be as long. -/
theorem reads_readSeed : readSeed.Reads fun seed bytes =>
    (Utf8.encode seed).length ≤ Address.maxSeedLength ∧
      bytes = LittleEndian.encode 8 (Utf8.encode seed).length ++ Utf8.encode seed := by
  refine (reads_word64.bind fun length => ((reads_take length.toNat).bind
    (?text : ∀ field, Reads _ fun seed bytes =>
      field = Utf8.encode seed ∧ bytes = [])).refuse).congr ?_
  case text =>
    intro field
    split
    case h_1 found decoded =>
      refine reads_pure.congr ?_
      intro seed bytes
      apply and_congr_left'
      rw [← Utf8.encode_of_decode_eq_ok decoded]
      constructor
      · rintro rfl
        rfl
      · intro same
        rw [← Utf8.encode_of_decode_eq_ok decoded, same, Utf8.decode_encode] at decoded
        exact Except.ok.inj decoded
    case h_2 fault refused =>
      refine reads_throw.congr fun seed bytes => iff_of_false id ?_
      rintro ⟨rfl, _⟩
      rw [Utf8.decode_encode] at refused
      cases refused
  intro seed bytes
  constructor
  · rintro ⟨length, _, _, rfl, ⟨short, _, _, _, ⟨same, rfl⟩, ⟨rfl, rfl⟩, rfl⟩, rfl⟩
    rw [← same] at short ⊢
    exact ⟨Nat.not_lt.mp short, congrArg _ (List.append_nil _)⟩
  · rintro ⟨short, rfl⟩
    have fits : (UInt64.ofNat (Utf8.encode seed).length).toNat = (Utf8.encode seed).length := by
      exact UInt64.toNat_ofNat_of_lt' (Nat.lt_of_le_of_lt short (by decide))
    refine ⟨.ofNat (Utf8.encode seed).length, _, _, rfl, ⟨?_, _, _, [], ⟨?_, rfl⟩, ⟨rfl, rfl⟩,
      (List.append_nil _).symm⟩, ?_⟩
    · rw [fits]
      exact Nat.not_lt.mpr short
    · exact fits.symm
    · rw [fits]

/-- The keys at the places of an instruction's own accounts. -/
def Named (keys : List PublicKey) : SystemInstruction → Prop
  | createAccount funding created .. => keys[0]? = some funding ∧ keys[1]? = some created
  | assign account _ => keys[0]? = some account
  | transfer source recipient _ => keys[0]? = some source ∧ keys[1]? = some recipient
  | createAccountWithSeed funding created .. =>
    keys[0]? = some funding ∧ keys[1]? = some created

variable {accounts : List AccountMeta} {keys : List PublicKey} {data : List UInt8}
  {instruction : SystemInstruction}

/-- The data of an instruction are its number and its arguments. -/
theorem data_eq_ok_iff : instruction.data = .ok data ↔ ∃ front back,
    Discriminant.word.encode instruction.number [] = .ok front ∧
      instruction.arguments = .ok back ∧ data = front ++ back := by
  rw [SystemInstruction.data, Outcome.bind_eq_ok_iff]
  constructor
  · rintro ⟨back, arguments, encoded⟩
    obtain ⟨front, written, rfl⟩ := Discriminant.encode_eq_ok_iff.mp encoded
    exact ⟨front, back, written, arguments, rfl⟩
  · rintro ⟨front, back, encoded, arguments, rfl⟩
    exact ⟨back, arguments, Discriminant.encode_eq_ok_iff.mpr ⟨front, encoded, rfl⟩⟩

/-- A payload is read as that of its instruction, if the accounts are. -/
theorem reads_read (same : accounts.map AccountMeta.key = keys) :
    (read accounts).Reads fun instruction bytes =>
      instruction.Named keys ∧ instruction.data = .ok bytes := by
  have account := AccountMeta.reads_lookup same
  -- Behind a number, only an instruction with that number is read.
  refine ((Discriminant.reads_read (by decide)).bind
    (?body : ∀ number, Reads _ fun instruction bytes => number = instruction.number ∧
      instruction.Named keys ∧ .ok bytes = instruction.arguments)).congr ?_
  case body =>
    intro number
    split
    case h_1 =>
      refine ((account 0 _).bind fun funding => (account 1 _).bind fun created =>
        reads_word64.bind fun lamports => reads_word64.bind fun space =>
        reads_readKey.bind fun owner => reads_pure).congr ?_
      rintro (_ | _ | _ | _) bytes <;>
        simp [SystemInstruction.number, Named, arguments, wide, and_assoc]
    case h_2 =>
      refine ((account 0 _).bind fun account => reads_readKey.bind fun owner => reads_pure).congr ?_
      rintro (_ | _ | _ | _) bytes <;>
        simp [SystemInstruction.number, Named, arguments]
    case h_3 =>
      refine ((account 0 _).bind fun source => (account 1 _).bind fun recipient =>
        reads_word64.bind fun lamports => reads_pure).congr ?_
      rintro (_ | _ | _ | _) bytes <;>
        simp [SystemInstruction.number, Named, arguments, wide, and_assoc]
    case h_4 =>
      refine (reads_readKey.bind fun base => reads_readSeed.bind fun seed =>
        (account 0 _).bind fun funding => (account 1 _).bind fun created =>
        reads_word64.bind fun lamports => reads_word64.bind fun space =>
        reads_readKey.bind fun owner => reads_pure).congr ?_
      rintro (_ | _ | _ | ⟨funding, created, base, seed, lamports, space, owner⟩) bytes
      case createAccountWithSeed =>
        by_cases short : (Utf8.encode seed).length ≤ Address.maxSeedLength
        · simp [SystemInstruction.number, Named, arguments, wide, short, Nat.not_lt.mpr short,
            and_assoc]
        · simp [arguments, short, Nat.lt_of_not_le short]
      all_goals simp [SystemInstruction.number]
    case h_5 zero one two three =>
      refine reads_throw.congr fun instruction bytes => iff_of_false id ?_
      rintro ⟨rfl, _⟩
      cases instruction with
      | createAccount => exact zero rfl
      | assign => exact one rfl
      | transfer => exact two rfl
      | createAccountWithSeed => exact three rfl
  · intro instruction bytes
    rw [data_eq_ok_iff]
    constructor
    · rintro ⟨_, front, back, encoded, ⟨rfl, named, arguments⟩, rfl⟩
      exact ⟨named, front, back, encoded, arguments.symm, rfl⟩
    · rintro ⟨named, front, back, encoded, arguments, rfl⟩
      exact ⟨_, front, back, encoded, ⟨rfl, named, arguments.symm⟩, rfl⟩

/-- **Which payloads are decoded** with some accounts, and to what. -/
theorem decode_eq_ok_iff : decode accounts data = .ok instruction ↔
    instruction.Named (accounts.map AccountMeta.key) ∧ instruction.data = .ok data :=
  (reads_read rfl).run_finish_eq_ok_iff

/-- A system instruction is named by the keys of its own accounts. -/
theorem named_accounts : instruction.Named (instruction.accounts.map AccountMeta.key) := by
  cases instruction <;> simp [Named, SystemInstruction.accounts, AccountMeta.writable]

end SystemInstruction

namespace TokenInstruction

/-- The keys at the places of an instruction's own accounts. -/
def Named (keys : List PublicKey) : TokenInstruction → Prop
  | initializeAccount account mint owner =>
    keys[0]? = some account ∧ keys[1]? = some mint ∧ keys[2]? = some owner
  | transfer source destination owner signers _ =>
    keys[0]? = some source ∧ keys[1]? = some destination ∧ keys[2]? = some owner ∧
      keys.drop 3 = signers
  | closeAccount account destination owner signers =>
    keys[0]? = some account ∧ keys[1]? = some destination ∧ keys[2]? = some owner ∧
      keys.drop 3 = signers
  | syncNative account => keys[0]? = some account

variable {accounts : List AccountMeta} {keys : List PublicKey} {data : List UInt8}
  {instruction : TokenInstruction}

/-- A payload is read as that of its instruction, if the accounts are. -/
theorem reads_read (same : accounts.map AccountMeta.key = keys) :
    (read accounts).Reads fun instruction bytes =>
      instruction.Named keys ∧ instruction.data = .ok bytes := by
  have account := AccountMeta.reads_lookup same
  have signers : (accounts.drop 3).map AccountMeta.key = keys.drop 3 := by
    rw [List.map_drop, same]
  refine ((Discriminant.reads_read (by decide)).bind
    (?body : ∀ number, Reads _ fun instruction bytes => number = instruction.number ∧
      instruction.Named keys ∧ bytes = instruction.arguments)).congr ?_
  case body =>
    intro number
    rw [signers]
    split
    case h_1 =>
      refine ((account 0 _).bind fun held => (account 1 _).bind fun mint =>
        (account 2 _).bind fun owner => reads_pure).congr ?_
      rintro (_ | _ | _ | _) bytes <;>
        simp [TokenInstruction.number, Named, arguments, and_assoc]
    case h_2 =>
      refine ((account 0 _).bind fun source => (account 1 _).bind fun destination =>
        (account 2 _).bind fun owner => reads_word64.bind fun amount => reads_pure).congr ?_
      rintro (_ | _ | _ | _) bytes <;>
        simp [TokenInstruction.number, Named, arguments, and_assoc, eq_comm]
    case h_3 =>
      refine ((account 0 _).bind fun held => (account 1 _).bind fun destination =>
        (account 2 _).bind fun owner => reads_pure).congr ?_
      rintro (_ | _ | _ | _) bytes <;>
        simp [TokenInstruction.number, Named, arguments, and_assoc, eq_comm]
    case h_4 =>
      refine ((account 0 _).bind fun held => reads_pure).congr ?_
      rintro (_ | _ | _ | _) bytes <;>
        simp [TokenInstruction.number, Named, arguments]
    case h_5 one three nine seventeen =>
      refine reads_throw.congr fun instruction bytes => iff_of_false id ?_
      rintro ⟨rfl, _⟩
      cases instruction with
      | initializeAccount => exact one rfl
      | transfer => exact three rfl
      | closeAccount => exact nine rfl
      | syncNative => exact seventeen rfl
  · intro instruction bytes
    rw [TokenInstruction.data, Discriminant.encode_eq_ok_iff]
    constructor
    · rintro ⟨_, front, _, encoded, ⟨rfl, named, rfl⟩, rfl⟩
      exact ⟨named, front, encoded, rfl⟩
    · rintro ⟨named, front, encoded, rfl⟩
      exact ⟨_, front, _, encoded, ⟨rfl, named, rfl⟩, rfl⟩

/-- **Which payloads are decoded** with some accounts, and to what. -/
theorem decode_eq_ok_iff : decode accounts data = .ok instruction ↔
    instruction.Named (accounts.map AccountMeta.key) ∧ instruction.data = .ok data :=
  (reads_read rfl).run_finish_eq_ok_iff

private theorem map_key_authority (owner : PublicKey) (signers : List PublicKey) :
    (authority owner signers).map AccountMeta.key = owner :: signers := by
  rw [authority, List.map_cons, List.map_map]
  exact congrArg _ (List.map_id signers)

/-- A token instruction is named by the keys of its own accounts. -/
theorem named_accounts : instruction.Named (instruction.accounts.map AccountMeta.key) := by
  cases instruction <;>
    simp [Named, TokenInstruction.accounts, map_key_authority, AccountMeta.writable,
      AccountMeta.readonly]

end TokenInstruction

namespace AssociatedTokenInstruction

/-- The keys at the places of an instruction's own accounts. -/
def Named (keys : List PublicKey) (instruction : AssociatedTokenInstruction) : Prop :=
  keys[0]? = some instruction.payer ∧ keys[1]? = some instruction.associated ∧
    keys[2]? = some instruction.wallet ∧ keys[3]? = some instruction.mint

variable {accounts : List AccountMeta} {data : List UInt8}
  {instruction : AssociatedTokenInstruction}

/-- **Which payloads are decoded** with some accounts, and to what. -/
theorem decode_eq_ok_iff : decode accounts data = .ok instruction ↔
    instruction.Named (accounts.map AccountMeta.key) ∧ instruction.data = .ok data := by
  simp only [decode, Outcome.refuse_eq_ok_iff, not_not, Outcome.bind_eq_ok_iff,
    AccountMeta.lookup_eq_ok_iff, Outcome.pure_eq_ok_iff]
  constructor
  · rintro ⟨rfl, _, payer, _, associated, _, wallet, _, mint, rfl⟩
    exact ⟨⟨payer, associated, wallet, mint⟩, rfl⟩
  · rintro ⟨⟨payer, associated, wallet, mint⟩, empty⟩
    exact ⟨(Except.ok.inj empty).symm, _, payer, _, associated, _, wallet, _, mint, rfl⟩

/-- The creation of a token account is named by the keys of its own accounts. -/
theorem named_accounts : instruction.Named (instruction.accounts.map AccountMeta.key) :=
  ⟨rfl, rfl, rfl, rfl⟩

end AssociatedTokenInstruction

namespace TypedInstruction

variable {accounts : List AccountMeta} {data : List UInt8} {instruction : TypedInstruction}

/-- **All three registrations succeed**, so that the registry has the decoders of all programs. -/
theorem registerAll_eq_ok : registerAll = .ok registry := rfl

/-- **The registry decodes** an instruction from the keys of its accounts and its payload. -/
theorem decode_registry
    (same : accounts.map AccountMeta.key =
      instruction.toInstruction.accounts.map AccountMeta.key)
    (written : instruction.toInstruction.data = .ok data) :
    registry.decode instruction.toInstruction.program accounts data = .ok instruction := by
  cases instruction with
  | system instruction =>
      have found : registry.find? Address.systemProgram = some decodeSystem := rfl
      have decoded : SystemInstruction.decode accounts data = .ok instruction :=
        SystemInstruction.decode_eq_ok_iff.mpr ⟨same ▸ SystemInstruction.named_accounts, written⟩
      rw [Registry.decode, toInstruction, SystemInstruction.toInstruction, found]
      exact congrArg (Except.map system) decoded
  | token instruction =>
      have found : registry.find? Address.tokenProgram = some decodeToken := rfl
      have decoded : TokenInstruction.decode accounts data = .ok instruction :=
        TokenInstruction.decode_eq_ok_iff.mpr ⟨same ▸ TokenInstruction.named_accounts, written⟩
      rw [Registry.decode, toInstruction, TokenInstruction.toInstruction, found]
      exact congrArg (Except.map token) decoded
  | associatedToken instruction =>
      have found : registry.find? Address.associatedTokenProgram = some decodeAssociatedToken := rfl
      have decoded : AssociatedTokenInstruction.decode accounts data = .ok instruction :=
        AssociatedTokenInstruction.decode_eq_ok_iff.mpr
          ⟨same ▸ AssociatedTokenInstruction.named_accounts, written⟩
      rw [Registry.decode, toInstruction, AssociatedTokenInstruction.toInstruction, found]
      exact congrArg (Except.map associatedToken) decoded

end TypedInstruction

end LedgerClient
