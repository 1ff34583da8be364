import LedgerClient.Json.Tree
import LedgerClient.Text.Numeral
import LedgerClient.Text.Utf8

/-! # Texts as they are spelled

Between its quotes a text may hold escapes. A code point beyond the first plane is
escaped as two surrogates, which must stand together.
-/

namespace LedgerClient.Json

/-- The bytes between the quotes of a text, escapes and all. -/
structure RawText where
  bytes : List UInt8
deriving DecidableEq

namespace RawText

/-- The number of a hexadecimal digit. -/
def hexValue? (byte : UInt8) : Option Nat :=
  Numeral.digit? (Char.ofNat byte.toNat)

/-- The number of four hexadecimal digits. -/
def hexNumber? (a b c d : UInt8) : Option Nat := do
  return (((← hexValue? a) * 16 + (← hexValue? b)) * 16 + (← hexValue? c)) * 16 + (← hexValue? d)

/-- What a backslash and a letter stand for. -/
def shortEscape? (letter : UInt8) : Option UInt8 :=
  if letter = 34 ∨ letter = 92 ∨ letter = 47 then some letter
  else if letter = 98 then some 8
  else if letter = 102 then some 12
  else if letter = 110 then some 10
  else if letter = 114 then some 13
  else if letter = 116 then some 9
  else none

/-- The bytes of a code point, put in reverse in front of bytes already found. -/
def pushCodePoint (found : List UInt8) (codePoint : Nat) : List UInt8 :=
  (Utf8.encode (String.singleton (Char.ofNat codePoint))).reverse ++ found

/-- Whether a number is the first half of a surrogate pair. -/
def isHighSurrogate (n : Nat) : Bool := 0xd800 ≤ n && n < 0xdc00

/-- Whether a number is the second half of a surrogate pair. -/
def isLowSurrogate (n : Nat) : Bool := 0xdc00 ≤ n && n < 0xe000

/-- The code point of a surrogate pair. -/
def joinSurrogates (high low : Nat) : Nat := 0x10000 + (high - 0xd800) * 0x400 + (low - 0xdc00)

/-- The bytes that a spelling stands for, after bytes already found in reverse. -/
def unescapeOnto (found : List UInt8) : List UInt8 → Option (List UInt8)
  | [] => some found.reverse
  | 92 :: 117 :: a :: b :: c :: d :: rest =>
    match hexNumber? a b c d with
    | none => none
    | some first =>
      if isLowSurrogate first then none
      else if isHighSurrogate first then
        match rest with
        | 92 :: 117 :: e :: f :: g :: h :: more =>
          match hexNumber? e f g h with
          | none => none
          | some second =>
            if isLowSurrogate second then
              unescapeOnto (pushCodePoint found (joinSurrogates first second)) more
            else none
        | _ => none
      else unescapeOnto (pushCodePoint found first) rest
  | 92 :: letter :: rest =>
    match shortEscape? letter with
    | none => none
    | some byte => unescapeOnto (byte :: found) rest
  | byte :: rest => unescapeOnto (byte :: found) rest

/-- The text that a spelling stands for. -/
def text (raw : RawText) : Except Fault String :=
  match unescapeOnto [] raw.bytes with
  | none => .error .badText
  | some bytes =>
    match Utf8.decode bytes with
    | .ok text => .ok text
    | .error _ => .error .badText

end RawText

end LedgerClient.Json
