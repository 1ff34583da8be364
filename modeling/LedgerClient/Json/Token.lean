import LedgerClient.Json.Literal
import LedgerClient.Json.RawText

/-! # The tokens of a source text

A scanner goes over the bytes once and holds at most one token that has begun. A
token ends at the first byte that cannot belong to it. Two tokens that stand
together without a separator are told apart here and refused by the grammar.
-/

namespace LedgerClient.Json

/-- The pieces of a source text. -/
inductive Token where
  | openArray
  | closeArray
  | openObject
  | closeObject
  | colon
  | comma
  | null
  | bool (b : Bool)
  | number (literal : Literal)
  | text (raw : RawText)
deriving DecidableEq

namespace Token

/-- How much of an escape has been seen. -/
inductive Escape where
  | none
  /-- The backslash. -/
  | begun
  /-- All but `left` of four hexadecimal digits. -/
  | hex (left : Nat)
deriving DecidableEq

/-- A token that has begun, with its bytes in reverse. -/
inductive Partial where
  | nothing
  | word (letters : List UInt8)
  | number (bytes : List UInt8)
  | text (bytes : List UInt8) (escape : Escape)
deriving DecidableEq

/-- What a scan has found so far, newest first, and the token that has begun. -/
structure Scan where
  found : List Token
  current : Partial

/-- The token of a word. -/
def ofWord? (letters : List UInt8) : Option Token :=
  if letters = Utf8.encode "null" then some .null
  else if letters = Utf8.encode "true" then some (.bool true)
  else if letters = Utf8.encode "false" then some (.bool false)
  else none

/-- Whether a byte separates tokens and means nothing else. -/
def isBlank (byte : UInt8) : Bool := byte == 32 || byte == 9 || byte == 10 || byte == 13

/-- Whether a byte may stand in a number. -/
def isNumeric (byte : UInt8) : Bool :=
  48 ≤ byte && byte ≤ 57 || byte == 45 || byte == 43 || byte == 46 || byte == 101 || byte == 69

/-- Whether a byte may stand in a word. -/
def isLetter (byte : UInt8) : Bool := 97 ≤ byte && byte ≤ 122

/-- Whether a byte may follow a backslash. -/
def isShortEscape (byte : UInt8) : Bool := (RawText.shortEscape? byte).isSome

/-- The scan after a byte with which no token has begun. -/
def begin (found : List Token) (byte : UInt8) : Option Scan :=
  if isBlank byte then some ⟨found, .nothing⟩
  else if byte = 34 then some ⟨found, .text [] .none⟩
  else if byte = 45 ∨ 48 ≤ byte ∧ byte ≤ 57 then some ⟨found, .number [byte]⟩
  else if isLetter byte then some ⟨found, .word [byte]⟩
  else if byte = 91 then some ⟨.openArray :: found, .nothing⟩
  else if byte = 93 then some ⟨.closeArray :: found, .nothing⟩
  else if byte = 123 then some ⟨.openObject :: found, .nothing⟩
  else if byte = 125 then some ⟨.closeObject :: found, .nothing⟩
  else if byte = 58 then some ⟨.colon :: found, .nothing⟩
  else if byte = 44 then some ⟨.comma :: found, .nothing⟩
  else none

/-- The scan after a byte of a text. -/
def continueText (found : List Token) (bytes : List UInt8) (byte : UInt8) :
    Escape → Option Scan
  | .none =>
    if byte = 34 then some ⟨.text ⟨bytes.reverse⟩ :: found, .nothing⟩
    else if byte = 92 then some ⟨found, .text (byte :: bytes) .begun⟩
    else if byte < 32 then none
    else some ⟨found, .text (byte :: bytes) .none⟩
  | .begun =>
    if byte = 117 then some ⟨found, .text (byte :: bytes) (.hex 4)⟩
    else if isShortEscape byte then some ⟨found, .text (byte :: bytes) .none⟩
    else none
  | .hex left =>
    if (RawText.hexValue? byte).isNone then none
    else if left ≤ 1 then some ⟨found, .text (byte :: bytes) .none⟩
    else some ⟨found, .text (byte :: bytes) (.hex (left - 1))⟩

/-- The tokens once the one that has begun is over. -/
def close (found : List Token) : Partial → Option (List Token)
  | .nothing => some found
  | .word letters => (ofWord? letters.reverse).map (· :: found)
  | .number bytes => (Literal.ofBytes? bytes.reverse).map fun literal => .number literal :: found
  | .text _ _ => none

/-- The scan after one more byte. -/
def step (scan : Scan) (byte : UInt8) : Option Scan :=
  match scan.current with
  | .text bytes escape => continueText scan.found bytes byte escape
  | .word letters =>
    if isLetter byte then some ⟨scan.found, .word (byte :: letters)⟩
    else (close scan.found (.word letters)).bind (begin · byte)
  | .number bytes =>
    if isNumeric byte then some ⟨scan.found, .number (byte :: bytes)⟩
    else (close scan.found (.number bytes)).bind (begin · byte)
  | .nothing => begin scan.found byte

/-- The scan after all bytes of a list. -/
def scanFrom (scan : Scan) : List UInt8 → Option Scan
  | [] => some scan
  | byte :: rest =>
    match step scan byte with
    | none => none
    | some next => scanFrom next rest

/-- The tokens of a source text. -/
def ofBytes? (bytes : List UInt8) : Option (List Token) := do
  let scan ← scanFrom ⟨[], .nothing⟩ bytes
  return (← close scan.found scan.current).reverse

end Token

end LedgerClient.Json
