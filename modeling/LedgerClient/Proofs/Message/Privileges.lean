import Mathlib.Data.Nat.PSub
import LedgerClient.Proofs.Message.Resolution
import LedgerClient.Proofs.Message.Wire
import LedgerClient.Proofs.Sequence

/-! # Places tell privileges

The counts of a header divide a message's own accounts into four blocks, and the looked-up
accounts follow. Whether an account signs and whether it may be written are computed from its
place by subtraction. On a message that can be read no subtraction is cut off at zero, so the
blocks have just the sizes that the header gives them, and resolving does not move them
(`LedgerClient.Message.inBlocks_of_deserialize`).
-/

namespace LedgerClient

namespace Message

variable {message : Message} {bytes : List UInt8} {statics index : Nat}

/-- The number of own keys, if no subtraction is cut off. -/
def staticCount? (message : Message) : Option Nat :=
  if message.isResolved then message.keys.length.psub message.lookupCount
  else some message.keys.length

/-- Whether the account at an index may be written, if no subtraction is cut off. -/
def isWritable? (message : Message) (index : Nat) : Option Bool := do
  let statics ← message.staticCount?
  let signers := message.header.required.toNat
  if statics ≤ index then
    return decide ((← index.psub statics) < message.writableLookupCount)
  else if index < signers then
    return decide (index < (← signers.psub message.header.readonlySigned.toNat))
  else
    let others ← statics.psub signers
    return decide ((← index.psub signers) < (← others.psub message.header.readonlyUnsigned.toNat))

/-- Whether the account at an index signs, and whether it may be written. -/
def privileges (message : Message) (index : Nat) : Bool × Bool :=
  (message.isSigner index, message.isWritable index)

/-- **Accounts in blocks**, of which so many are a message's own. -/
structure InBlocks (message : Message) (statics : Nat) : Prop where
  staticCount : message.staticCount = statics
  required_le : message.header.required.toNat ≤ statics
  readonlySigned_lt : message.header.readonlySigned.toNat < message.header.required.toNat
  readonlyUnsigned_le :
    message.header.readonlyUnsigned.toNat ≤ statics - message.header.required.toNat
  /-- No subtraction is cut off. -/
  exact_staticCount : message.staticCount? = some message.staticCount
  exact_isWritable : ∀ index, message.isWritable? index = some (message.isWritable index)
  /-- The own accounts: signers that may be written, other signers, and of the rest again those
  that may be written first. -/
  blocks : (List.range statics).map message.privileges =
    List.replicate (message.header.required.toNat - message.header.readonlySigned.toNat)
        (true, true) ++
      List.replicate message.header.readonlySigned.toNat (true, false) ++
      List.replicate
        (statics - message.header.required.toNat - message.header.readonlyUnsigned.toNat)
        (false, true) ++
      List.replicate message.header.readonlyUnsigned.toNat (false, false)
  payer : message.privileges 0 = (true, true)
  /-- The looked-up accounts do not sign, and the first of them may be written. -/
  beyond : ∀ index, statics ≤ index →
    message.privileges index = (false, decide (index - statics < message.writableLookupCount))

private theorem staticCount_of_exact (exactly : message.staticCount? = some statics) :
    message.staticCount = statics := by
  rw [staticCount]
  rw [staticCount?] at exactly
  split
  case isTrue resolved =>
    rw [if_pos resolved, Nat.psub_eq_some] at exactly
    omega
  case isFalse waiting =>
    rw [if_neg waiting] at exactly
    exact Option.some.inj exactly

section Counted

variable (exactly : message.staticCount? = some statics)
  (valid : message.header.validate statics = .ok ())

include exactly valid

/-- No subtraction of the check goes below zero. -/
theorem isWritable?_eq (index : Nat) :
    message.isWritable? index = some (message.isWritable index) := by
  obtain ⟨signers, readonlySigned, readonlyUnsigned⟩ := Header.validate_eq_ok_iff.mp valid
  rw [isWritable?, exactly, isWritable, staticCount_of_exact exactly]
  dsimp only [Option.bind_eq_bind, Option.bind_some]
  by_cases beyond : statics ≤ index
  · rw [if_pos beyond, if_pos beyond, Nat.psub_eq_sub beyond]
    rfl
  rw [if_neg beyond, if_neg beyond]
  by_cases signer : index < message.header.required.toNat
  · rw [if_pos signer, if_pos signer, Nat.psub_eq_sub (Nat.le_of_lt readonlySigned)]
    rfl
  · rw [if_neg signer, if_neg signer, Nat.psub_eq_sub signers,
      Nat.psub_eq_sub (Nat.le_of_not_lt signer)]
    dsimp only [Option.bind_some]
    rw [Nat.psub_eq_sub readonlyUnsigned]
    rfl

/-- A key that signs may be written if it is not among the last, read-only ones. -/
theorem privileges_of_signer (signer : index < message.header.required.toNat) :
    message.privileges index = (true, decide
      (index < message.header.required.toNat - message.header.readonlySigned.toNat)) := by
  have signers := (Header.validate_eq_ok_iff.mp valid).1
  rw [privileges, isSigner, isWritable, staticCount_of_exact exactly, if_neg (by omega),
    if_pos signer, decide_eq_true signer]

/-- An own key that does not sign may be written if it is not among the last ones. -/
theorem privileges_of_other (other : message.header.required.toNat ≤ index)
    (own : index < statics) : message.privileges index = (false, decide
      (index < statics - message.header.readonlyUnsigned.toNat)) := by
  obtain ⟨signers, _, readonlyUnsigned⟩ := Header.validate_eq_ok_iff.mp valid
  rw [privileges, isSigner, isWritable, staticCount_of_exact exactly, if_neg (by omega),
    if_neg (by omega), decide_eq_false (by omega)]
  congr 1
  rw [decide_eq_decide]
  omega

/-- A key from a table does not sign, and the first ones may be written. -/
theorem privileges_of_beyond (beyond : statics ≤ index) : message.privileges index =
    (false, decide (index - statics < message.writableLookupCount)) := by
  have signers := (Header.validate_eq_ok_iff.mp valid).1
  rw [privileges, isSigner, isWritable, staticCount_of_exact exactly, if_pos beyond,
    decide_eq_false (by omega)]

/-- **The own accounts** stand in four blocks. -/
theorem map_privileges_range : (List.range statics).map message.privileges =
    List.replicate (message.header.required.toNat - message.header.readonlySigned.toNat)
        (true, true) ++
      List.replicate message.header.readonlySigned.toNat (true, false) ++
      List.replicate
        (statics - message.header.required.toNat - message.header.readonlyUnsigned.toNat)
        (false, true) ++
      List.replicate message.header.readonlyUnsigned.toNat (false, false) := by
  obtain ⟨signers, readonlySigned, readonlyUnsigned⟩ := Header.validate_eq_ok_iff.mp valid
  have whole : statics = 0 +
      (message.header.required.toNat - message.header.readonlySigned.toNat) +
      message.header.readonlySigned.toNat +
      (statics - message.header.required.toNat - message.header.readonlyUnsigned.toNat) +
      message.header.readonlyUnsigned.toNat := by omega
  rw [congrArg List.range whole, Sequence.map_range_add, Sequence.map_range_add,
    Sequence.map_range_add, Sequence.map_range_add]
  · rfl
  · intro index _ inside
    rw [privileges_of_signer exactly valid (by omega), decide_eq_true (by omega)]
  · intro index outside inside
    rw [privileges_of_signer exactly valid (by omega), decide_eq_false (by omega)]
  · intro index outside inside
    rw [privileges_of_other exactly valid (by omega) (by omega), decide_eq_true (by omega)]
  · intro index outside inside
    rw [privileges_of_other exactly valid (by omega) (by omega), decide_eq_false (by omega)]

private theorem inBlocks_of_validate : message.InBlocks statics := by
  have counted := staticCount_of_exact exactly
  obtain ⟨signers, readonlySigned, readonlyUnsigned⟩ := Header.validate_eq_ok_iff.mp valid
  refine
    { staticCount := counted
      required_le := signers
      readonlySigned_lt := readonlySigned
      readonlyUnsigned_le := readonlyUnsigned
      exact_staticCount := counted.symm ▸ exactly
      exact_isWritable := isWritable?_eq exactly valid
      blocks := map_privileges_range exactly valid
      payer := ?_
      beyond := fun index beyond => privileges_of_beyond exactly valid beyond }
  rw [privileges_of_signer exactly valid (by omega), decide_eq_true (by omega)]

end Counted

/-- After any calls the own keys are counted exactly. -/
theorem Stage.staticCount?_eq {initial : Message} (fresh : initial.isResolved = false)
    (stage : Stage initial message) : message.staticCount? = some initial.keys.length := by
  cases stage with
  | waiting tables =>
      rw [staticCount?, fresh]
      rfl
  | resolved loads =>
      have sizes := length_of_loaded loads
      change (initial.extended _).keys.length.psub initial.lookupCount = _
      rw [Nat.psub_eq_some, extended, List.length_append, List.length_append]
      omega

/-- **A message that is read has its accounts in blocks**, and keeps them so whatever calls
attach its tables and resolve its lookups. -/
theorem inBlocks_of_deserialize (found : deserialize bytes = .ok message)
    (calls : List TableCall) : (message.afterCalls calls).header = message.header ∧
      (message.afterCalls calls).InBlocks message.keys.length := by
  obtain ⟨readable, _⟩ := deserialize_eq_ok_iff.mp found
  have stage : Stage message (message.afterCalls calls) :=
    (show Stage message message from .waiting message.tables).afterCalls calls
  have same : (message.afterCalls calls).header = message.header := by
    rw [stage.eq_initial]
  exact ⟨same, inBlocks_of_validate (stage.staticCount?_eq readable.unresolved)
    (same ▸ readable.header)⟩

/-- One account of each kind, and two accounts of a table. -/
def motley : Message :=
  ofParts .v0 ⟨2, 1, 1⟩
    [⟨.replicate 32 1⟩, ⟨.replicate 32 2⟩, ⟨.replicate 32 3⟩, ⟨.replicate 32 4⟩] .zero []
    [⟨⟨.replicate 32 9⟩, [1], [0]⟩]

/-- The bytes of that message. -/
def motleyBytes : List UInt8 :=
  [128, 2, 1, 1, 4] ++ motley.keys.flatMap (·.toList) ++ List.replicate 32 0 ++ [0, 1] ++
    List.replicate 32 9 ++ [1, 1, 1, 0]

/-- Its tables are attached and its lookups resolved. -/
def motleyCalls : List TableCall :=
  [.attach (.ofList [(⟨.replicate 32 9⟩, [⟨.replicate 32 5⟩, ⟨.replicate 32 6⟩])]), .resolve]

set_option maxRecDepth 2000 in
/-- A message with keys in all four blocks and from a table. -/
theorem inBlocks_motley : deserialize motleyBytes = .ok motley ∧
    (motley.afterCalls motleyCalls).isResolved = true ∧
      (motley.afterCalls motleyCalls).header = motley.header ∧
      (motley.afterCalls motleyCalls).InBlocks motley.keys.length := by
  have found : deserialize motleyBytes = .ok motley :=
    deserialize_eq_ok_iff.mpr ⟨⟨rfl, rfl, rfl⟩, rfl⟩
  exact ⟨found, rfl, inBlocks_of_deserialize found motleyCalls⟩

end Message

end LedgerClient
