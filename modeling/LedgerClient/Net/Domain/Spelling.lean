import LedgerClient.Net.Domain.Letters
import LedgerClient.Net.Domain.Ligatures
import LedgerClient.Text.Unassigned

/-! # What the characters of a name stand for

Every form of a character stands for the plain one. Characters that show nothing are
passed over, and some characters no name can have.
-/

namespace LedgerClient.Domain

/-- Ranges of characters that are passed over. -/
def silentRanges : List (Nat × Nat) :=
  [(0xad, 0xad), (0x34f, 0x34f), (0x115f, 0x1160), (0x17b4, 0x17b5), (0x180b, 0x180f),
   (0x200b, 0x200b), (0x2060, 0x2064), (0x206a, 0x206f), (0x3164, 0x3164), (0xfe00, 0xfe0f),
   (0xfeff, 0xfeff), (0xffa0, 0xffa0), (0x1bca0, 0x1bca3), (0x1d173, 0x1d17a),
   (0xe0100, 0xe01ef)]

example : areApart silentRanges := by decide +kernel

/-- Ranges of characters beyond ASCII that no name can have. -/
def barredRanges : List (Nat × Nat) :=
  [(0x80, 0x9f), (0x600, 0x605), (0x61c, 0x61c), (0x6dd, 0x6dd), (0x70f, 0x70f), (0x890, 0x891),
   (0x8e2, 0x8e2), (0x1680, 0x1680), (0x200e, 0x200f), (0x2024, 0x2026), (0x2028, 0x202e),
   (0x2066, 0x2069), (0x2488, 0x249b), (0x2ff0, 0x2fff), (0x31ef, 0x31ef), (0x33c2, 0x33c2),
   (0x33c7, 0x33c7), (0x33d8, 0x33d8), (0xe000, 0xf8ff), (0xfe12, 0xfe12), (0xfe19, 0xfe19),
   (0xfe30, 0xfe30), (0xfe52, 0xfe52), (0xfff9, 0xfffd), (0x110bd, 0x110bd), (0x110cd, 0x110cd),
   (0x13430, 0x1343f), (0x1f100, 0x1f100), (0xe0001, 0xe0001), (0xe0020, 0xe007f),
   (0xf0000, 0xffffd), (0x100000, 0x10fffd)]

example : areApart barredRanges := by decide +kernel

/-- Whether a character stands for itself in a name. -/
def isPlain (c : Char) : Bool :=
  c.toNat < 0x80 && !c.isUpper ||
    0x80 ≤ c.toNat && isAssigned c && !inRanges c.toNat barredRanges &&
      !inRanges c.toNat silentRanges && (letter? c).isNone && (ligature? c).isNone

/-- The characters that a character of a name stands for. -/
def spell? (c : Char) : Option (List Char) :=
  if isPlain c then some [c]
  else if inRanges c.toNat silentRanges then some []
  else ((letter? c).map ([·])).or (ligature? c)

/-- Characters that part an address on the web, and that no host can have. -/
def separators : List Char :=
  ['\x00', '\t', '\n', '\r', ' ', '#', '/', ':', '<', '>', '?', '@', '[', '\\', ']', '^', '|']

/-- Whether a character of ASCII is one that no name can have. -/
def isForbidden (c : Char) : Bool :=
  separators.contains c || c == '%' || c.toNat < 32 || c.toNat == 127

end LedgerClient.Domain
