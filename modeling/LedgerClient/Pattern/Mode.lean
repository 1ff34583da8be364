import LedgerClient.Text.Blank
import LedgerClient.Text.Numeral

/-! # How patterns are read

A pattern tells which texts are wanted. From any place in it to the end of a group
its mode may change. The cases of letters and the classes of characters are known for
ASCII only, so what needs them beyond it is refused, and so is what would match half
a character.
-/

namespace LedgerClient.Pattern

/-- How the characters of a pattern are taken. -/
structure Mode where
  /-- Letters stand for letters of either case. -/
  ignoresCase : Bool
  /-- All characters count, and not just those of ASCII. -/
  isUnicode : Bool
  /-- Blanks and comments may stand between the parts. -/
  isSpaced : Bool
deriving DecidableEq

/-- What a backslash and the characters after it stand for. -/
inductive Escaped where
  | literal (c : Char)
  /-- A class of characters of ASCII. -/
  | named
  /-- A place in a text, like the end of a word. -/
  | place
deriving DecidableEq

namespace Mode

/-- The mode that a pattern begins with. -/
def standard : Mode := ⟨false, true, false⟩

/-- What follows blanks and comments. -/
def afterSpace (inComment : Bool) : List Char → List Char
  | [] => []
  | c :: rest =>
    if inComment then afterSpace (c != '\n') rest
    else if c = '#' then afterSpace true rest
    else if isBlank c then afterSpace false rest
    else c :: rest

/-- What follows blanks and comments, where they may stand. -/
def skip (mode : Mode) (cs : List Char) : List Char :=
  if mode.isSpaced then afterSpace false cs else cs

/-- Whether characters can stand for themselves: not if their other case is wanted
as well and may lie beyond ASCII. -/
def allowsLiterals (mode : Mode) : Bool := !(mode.ignoresCase && mode.isUnicode)

/-- So many hexadecimal digits, after a number that they go on with. -/
def hexadecimal? (mode : Mode) : Nat → Nat → List Char → Option (Nat × List Char)
  | 0, value, cs => some (value, cs)
  | count + 1, value, cs =>
    match mode.skip cs with
    | [] => none
    | c :: rest => do
      let digit ← Numeral.digitBelow? 16 c
      mode.hexadecimal? count (16 * value + digit) rest

/-- The character of a code point in hexadecimal. In two digits it is a byte, which
is a character of its own in ASCII only. -/
def codePoint? (mode : Mode) (count : Nat) (cs : List Char) : Option (Escaped × List Char) := do
  let (n, rest) ← mode.hexadecimal? count 0 cs
  if !decide n.isValidChar || (count == 2 && !mode.isUnicode && 0x80 ≤ n) then none
  else return (.literal (Char.ofNat n), rest)

/-- What the characters after a backslash stand for. Any character of ASCII that is
no letter and no digit stands for itself, except those for the ends of words. -/
def escape? (mode : Mode) : List Char → Option (Escaped × List Char)
  | [] => none
  | c :: rest =>
    match c with
    | 'x' => mode.codePoint? 2 rest
    | 'u' => mode.codePoint? 4 rest
    | 'U' => mode.codePoint? 8 rest
    | 'a' => some (.literal '\x07', rest)
    | 't' => some (.literal '\t', rest)
    | 'n' => some (.literal '\n', rest)
    | 'v' => some (.literal '\x0b', rest)
    | 'f' => some (.literal '\x0c', rest)
    | 'r' => some (.literal '\r', rest)
    | 'A' => some (.place, rest)
    | 'z' => some (.place, rest)
    | c =>
      if ['d', 's', 'w'].contains c then if mode.isUnicode then none else some (.named, rest)
      else if ['b', 'B', '<', '>'].contains c then
        if mode.isUnicode then none else some (.place, rest)
      else if c.isAlphanum || 0x80 ≤ c.toNat then none
      else some (.literal c, rest)

/-- The letters that change a mode, with a hyphen before those that undo a change. -/
def letters : List Char := ['i', 'm', 's', 'U', 'u', 'R', 'x', '-']

/-- Change the mode by letters, none of which may come twice. A hyphen stands before a
letter. -/
def change? (mode : Mode) (found : List Char) : Option Mode :=
  if !found.all letters.contains || found.eraseDups.length ≠ found.length ||
    found.getLast? == some '-' then none
  else
    let set := found.takeWhile (· != '-')
    let unset := found.dropWhile (· != '-')
    let changed := fun letter old => set.contains letter || (old && !unset.contains letter)
    some ⟨changed 'i' mode.ignoresCase, changed 'u' mode.isUnicode, changed 'x' mode.isSpaced⟩

end Mode

/-- How deep parts in a row are nested: one part as it is, and several one deeper than
the deepest. -/
def rowDepth : List Nat → Nat
  | [] => 0
  | [depth] => depth
  | depths => depths.foldl max 0 + 1

end LedgerClient.Pattern
