/-! # What can go wrong with keys, messages and transactions

An error names its cause and carries the values the caller needs to act on it.
Its wording is one function (`LedgerError.message`), its broad class another
(`LedgerError.kind`).
-/

namespace LedgerClient

/-- Broad failure classes, for callers that do not tell single causes apart. -/
inductive ErrorKind where
  /-- Bad length marks, truncated buffers, unreadable text. -/
  | malformedInput
  /-- A request that can never succeed as it stands. -/
  | validationFailure
  /-- Keys off the curve and signatures that do not verify. -/
  | cryptoFailure
deriving DecidableEq

/-- Why an operation on keys, instructions, messages or transactions failed. -/
inductive LedgerError where
  | malformedLength
  | truncatedInput (needed remaining : Nat)
  | countOverflow (what : String) (count remaining : Nat)
  | invalidVersion (byte : UInt8)
  | trailingBytes (count : Nat)
  | invalidBase58 (reason : String)
  | invalidBase64 (reason : String)
  | invalidLength (expected actual : Nat)
  | invalidHeader (reason : String)
  | noFeePayer
  | missingSigner (key : String)
  | signatureCountMismatch (expected actual : Nat)
  | tooManySeeds (count : Nat)
  | seedTooLong (length : Nat)
  | noValidAddress
  | invalidSeeds
  | lengthOverflow (length : Nat)
  | tooManyAccounts (count : Nat)
  | indexOverflow (index : Nat)
  | accountIndexOutOfRange (index : Nat)
  | lookupIndexOutOfRange (table : String) (index : UInt8)
  | lookupTableTooLarge (table : String) (length : Nat)
  | addressTablesAlreadySet
  | missingAddressTable (table : String)
  | lookupsInLegacyMessage
  | tooManyLegacySigners (count : Nat)
  | duplicateDecoder (program : String)
  | unknownProgram (program : String)
  | invalidInstruction (reason : String)
  | rpc (reason : String)
  | invalidKeySize (size : Nat)
  | notOnCurve
  | keypairMismatch
  | signatureVerification (key : String)
deriving DecidableEq

namespace LedgerError

/-- The sentence shown to people. -/
def message : LedgerError → String
  | malformedLength => "malformed compact-u16 length"
  | truncatedInput needed remaining =>
    s!"truncated input: needed {needed} bytes, {remaining} remaining"
  | countOverflow what count remaining =>
    s!"declared {what} count {count} exceeds remaining {remaining} bytes"
  | invalidVersion byte => s!"unsupported message version: {byte}"
  | trailingBytes count => s!"{count} trailing bytes after message"
  | invalidBase58 reason => s!"invalid base58: {reason}"
  | invalidBase64 reason => s!"invalid base64: {reason}"
  | invalidLength expected actual => s!"expected {expected} bytes, got {actual}"
  | invalidHeader reason => s!"invalid message header: {reason}"
  | noFeePayer =>
    "cannot determine a fee payer: pass one explicitly or make the first instruction carry a signer"
  | missingSigner key => s!"signer key {key} not found"
  | signatureCountMismatch expected actual =>
    s!"invalid signatures length: expected {expected}, got {actual}"
  | tooManySeeds count => s!"too many seeds: {count} (max 16)"
  | seedTooLong length => s!"seed too long: {length} bytes (max 32)"
  | noValidAddress => "no valid program address found for the given seeds"
  | invalidSeeds => "invalid seeds: address must fall off the curve"
  | lengthOverflow length => s!"length {length} exceeds the compact-u16 range"
  | tooManyAccounts count => s!"too many accounts: {count}"
  | indexOverflow index => s!"account index {index} does not fit in a u8"
  | accountIndexOutOfRange index => s!"account index {index} is outside the message key space"
  | lookupIndexOutOfRange table index => s!"lookup table {table} has no entry at index {index}"
  | lookupTableTooLarge table length => s!"lookup table {table} holds {length} addresses (max 256)"
  | addressTablesAlreadySet => "address tables already set"
  | missingAddressTable table => s!"address table {table} was not supplied"
  | lookupsInLegacyMessage => "legacy messages cannot carry address table lookups"
  | tooManyLegacySigners count => s!"legacy messages allow at most 127 signers, got {count}"
  | duplicateDecoder program => s!"a decoder is already registered for program {program}"
  | unknownProgram program => s!"no decoder registered for program {program}"
  | invalidInstruction reason => s!"invalid instruction: {reason}"
  | rpc reason => s!"rpc call failed: {reason}"
  | invalidKeySize size => s!"invalid private key size: expected 64, got {size}"
  | notOnCurve => "public key is not on the ed25519 curve"
  | keypairMismatch => "private key halves do not match"
  | signatureVerification key => s!"signature verification failed for {key}"

/-- The class an error belongs to. -/
def kind : LedgerError → ErrorKind
  | malformedLength | truncatedInput _ _ | countOverflow _ _ _ | invalidVersion _
  | trailingBytes _ | invalidBase58 _ | invalidBase64 _ | invalidLength _ _
  | invalidHeader _ => .malformedInput
  | invalidKeySize _ | notOnCurve | keypairMismatch | signatureVerification _ => .cryptoFailure
  | _ => .validationFailure

end LedgerError

end LedgerClient
