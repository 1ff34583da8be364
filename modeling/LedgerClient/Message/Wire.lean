import LedgerClient.Message.Basic
import LedgerClient.Wire.Armor
import LedgerClient.Wire.CompactLength

/-! # Messages on the wire

The bytes of a message are what its signers sign. A legacy message begins with
its number of signers, which stays below 128; the newer version begins with the
byte 128, so the first byte tells the two apart. Lists follow their length.
-/

namespace LedgerClient

/-- An index in one byte. -/
def CompiledInstruction.encodeIndex (index : UInt16) : Except LedgerError UInt8 :=
  if index.toNat < 256 then .ok index.toUInt8 else .error (.indexOverflow index.toNat)

/-- The bytes of an instruction. -/
def CompiledInstruction.encode (instruction : CompiledInstruction) :
    Except LedgerError (List UInt8) := do
  let program ← encodeIndex instruction.program
  let accountCount ← CompactLength.encode? instruction.accounts.length
  let accounts ← instruction.accounts.mapM encodeIndex
  let dataLength ← CompactLength.encode? instruction.data.length
  return program :: accountCount ++ accounts ++ dataLength ++ instruction.data

/-- Read an instruction. -/
def CompiledInstruction.read : Reader CompiledInstruction := do
  let program ← Reader.byte
  let accounts ← Reader.take (← CompactLength.readCount "instruction account" 1)
  let data ← Reader.take (← CompactLength.readCount "instruction data byte" 1)
  return ⟨program.toUInt16, accounts.map (·.toUInt16), data⟩

/-- The bytes of a lookup. -/
def TableLookup.encode (lookup : TableLookup) : Except LedgerError (List UInt8) := do
  let writableCount ← CompactLength.encode? lookup.writable.length
  let readonlyCount ← CompactLength.encode? lookup.readonly.length
  return lookup.table.toList ++ writableCount ++ lookup.writable ++ readonlyCount ++
    lookup.readonly

/-- Read a lookup. -/
def TableLookup.read : Reader TableLookup := do
  let table ← Reader.fixed 32
  let writable ← Reader.take (← CompactLength.readCount "writable index" 1)
  let readonly ← Reader.take (← CompactLength.readCount "readonly index" 1)
  return ⟨⟨table⟩, writable, readonly⟩

namespace Message

/-- The first byte of a message of the newer version. -/
def v0Mark : UInt8 := 128

/-- The most signers of a legacy message. -/
def maxLegacySigners : Nat := 127

/-- The fewest bytes that a key takes. -/
def keySize : Nat := 32

/-- The fewest bytes that an instruction takes: a program and two empty lists. -/
def minInstructionSize : Nat := 3

/-- The fewest bytes that a lookup takes: a table and two empty lists. -/
def minLookupSize : Nat := 34

/-- What stands in front of the header. A legacy message has no lookups, and its
number of signers must not be taken for the mark of a version. -/
def encodeVersion (message : Message) : Except LedgerError (List UInt8) :=
  let signers := message.header.required.toNat
  match message.version with
  | .v0 => .ok [v0Mark]
  | .legacy =>
    if message.lookups ≠ [] then .error .lookupsInLegacyMessage
    else if maxLegacySigners < signers then .error (.tooManyLegacySigners signers)
    else .ok []

/-- The lookups, after their number in one byte; a legacy message has no such
part. -/
def encodeLookups (message : Message) : Except LedgerError (List UInt8) := do
  match message.version with
  | .legacy => return []
  | .v0 =>
    let count := message.lookups.length
    if 256 ≤ count then throw (.lengthOverflow count)
    let lookups ← message.lookups.mapM TableLookup.encode
    return UInt8.ofNat count :: lookups.flatten

/-- The bytes of a message. Looked-up keys are not among them. -/
def serialize (message : Message) : Except LedgerError (List UInt8) := do
  let keys := message.staticKeys
  let version ← message.encodeVersion
  let keyCount ← CompactLength.encode? keys.length
  let instructionCount ← CompactLength.encode? message.instructions.length
  let instructions ← message.instructions.mapM CompiledInstruction.encode
  let lookups ← message.encodeLookups
  return version ++ message.header.encode ++ keyCount ++ (keys.map (·.toList)).flatten ++
    message.blockhash.toList ++ instructionCount ++ instructions.flatten ++ lookups

/-- Read the version, which leaves the first byte of a legacy message in place. -/
def readVersion : Reader MessageVersion := do
  let next ← Reader.peek 1
  let first := next.headD 0
  if first < v0Mark then return .legacy
  if first ≠ v0Mark then throw (.invalidVersion first)
  let _ ← Reader.byte
  return .v0

/-- Read the lookups of a message. -/
def readLookups : MessageVersion → Reader (List TableLookup)
  | .legacy => return []
  | .v0 => do
    let count := (← Reader.byte).toNat
    let remaining ← Reader.remaining
    if remaining < count * minLookupSize then
      throw (.countOverflow "address table lookup" count remaining)
    Reader.times count TableLookup.read

/-- Read a message, which bytes may follow. -/
def read : Reader Message := do
  let version ← readVersion
  let header ← Header.read
  let keyCount ← CompactLength.readCount "account key" keySize
  let keys ← Reader.times keyCount (Reader.fixed 32)
  Reader.ofExcept (header.validate keyCount)
  let blockhash ← Reader.fixed 32
  let instructionCount ← CompactLength.readCount "instruction" minInstructionSize
  let instructions ← Reader.times instructionCount CompiledInstruction.read
  let lookups ← readLookups version
  return ofParts version header (keys.map (⟨·⟩)) ⟨blockhash⟩ instructions lookups

/-- The message that a byte list spells; no byte may be left over. -/
def deserialize (bytes : List UInt8) : Except LedgerError Message :=
  Reader.run (do
    let message ← read
    Reader.finish
    return message) bytes

/-- The Base64 text of a message. -/
def toBase64 (message : Message) : Except LedgerError String := message.serialize.map Armor.encode

/-- The message that a Base64 text spells. -/
def ofBase64 (text : String) : Except LedgerError Message := do
  deserialize (← Armor.decode text)

end Message

end LedgerClient
