import LedgerClient.Error.Basic
import LedgerClient.Text.Diagnostic

/-! # Errors in diagnostics

Each error has a form of its own, by which callers outside know it.
-/

namespace LedgerClient

/-- The form of an error class. -/
def ErrorKind.form : ErrorKind → String
  | malformedInput => "MalformedInput"
  | validationFailure => "ValidationFailure"
  | cryptoFailure => "CryptoFailure"

namespace LedgerError

/-- The form and the parts of an error. -/
def diagnostic : LedgerError → Diagnostic
  | malformedLength => .plain "MalformedLength"
  | truncatedInput needed remaining =>
    ⟨"TruncatedInput", [⟨"needed", toString needed⟩, ⟨"remaining", toString remaining⟩]⟩
  | countOverflow what count remaining =>
    ⟨"CountOverflow", [⟨"what", Quoted.text what⟩, ⟨"count", toString count⟩,
      ⟨"remaining", toString remaining⟩]⟩
  | invalidVersion byte => .number "InvalidVersion" byte.toNat
  | trailingBytes count => .number "TrailingBytes" count
  | invalidBase58 reason => .text "InvalidBase58" reason
  | invalidBase64 reason => .text "InvalidBase64" reason
  | invalidLength expected actual =>
    ⟨"InvalidLength", [⟨"expected", toString expected⟩, ⟨"actual", toString actual⟩]⟩
  | invalidHeader reason => .text "InvalidHeader" reason
  | noFeePayer => .plain "NoFeePayer"
  | missingSigner key => .text "MissingSigner" key
  | signatureCountMismatch expected actual =>
    ⟨"SignatureCountMismatch", [⟨"expected", toString expected⟩, ⟨"actual", toString actual⟩]⟩
  | tooManySeeds count => .number "TooManySeeds" count
  | seedTooLong length => .number "SeedTooLong" length
  | noValidAddress => .plain "NoValidAddress"
  | invalidSeeds => .plain "InvalidSeeds"
  | lengthOverflow length => .number "LengthOverflow" length
  | tooManyAccounts count => .number "TooManyAccounts" count
  | indexOverflow index => .number "IndexOverflow" index
  | accountIndexOutOfRange index => .number "AccountIndexOutOfRange" index
  | lookupIndexOutOfRange table index =>
    ⟨"LookupIndexOutOfRange", [⟨"table", Quoted.text table⟩, ⟨"index", toString index⟩]⟩
  | lookupTableTooLarge table length =>
    ⟨"LookupTableTooLarge", [⟨"table", Quoted.text table⟩, ⟨"len", toString length⟩]⟩
  | addressTablesAlreadySet => .plain "AddressTablesAlreadySet"
  | missingAddressTable table => .text "MissingAddressTable" table
  | lookupsInLegacyMessage => .plain "LookupsInLegacyMessage"
  | tooManyLegacySigners count => .number "TooManyLegacySigners" count
  | duplicateDecoder program => .text "DuplicateDecoder" program
  | unknownProgram program => .text "UnknownProgram" program
  | invalidInstruction reason => .text "InvalidInstruction" reason
  | rpc reason => .text "Rpc" reason
  | invalidKeySize size => .number "InvalidKeySize" size
  | notOnCurve => .plain "NotOnCurve"
  | keypairMismatch => .plain "KeypairMismatch"
  | signatureVerification key => .text "SignatureVerification" key

end LedgerError

end LedgerClient
