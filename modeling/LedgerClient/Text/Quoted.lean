import LedgerClient.Text.Positional
import LedgerClient.Text.Printable

/-! # Quoted text for diagnostics

Diagnostics show a text between quotes and a character between apostrophes.
What cannot be printed on its own is escaped, so that a diagnostic is always
one readable line.
-/

namespace LedgerClient.Quoted

/-- The lowercase hexadecimal digit of a number below sixteen. -/
def hexDigit (n : Nat) : Char := "0123456789abcdef".toList.getD n '0'

/-- A code point in hexadecimal, with no leading zeros. -/
def hexadecimal (n : Nat) : List Char :=
  if n = 0 then ['0'] else (Positional.digits 16 n).map hexDigit

/-- One character as it stands inside a pair of `quote` characters. -/
def escape (quote c : Char) : List Char :=
  if c = '\x00' then ['\\', '0']
  else if c = '\t' then ['\\', 't']
  else if c = '\r' then ['\\', 'r']
  else if c = '\n' then ['\\', 'n']
  else if c = '\\' ∨ c = quote then ['\\', c]
  else if isPrintable c then [c]
  else ['\\', 'u', '\x7b'] ++ hexadecimal c.toNat ++ ['\x7d']

/-- A text between quotes. -/
def text (s : String) : String :=
  String.ofList ('"' :: s.toList.flatMap (escape '"') ++ ['"'])

/-- A character between apostrophes. -/
def char (c : Char) : String :=
  String.ofList ('\'' :: escape '\'' c ++ ['\''])

end LedgerClient.Quoted
