import LedgerClient.Net.Domain.Direction
import LedgerClient.Net.Domain.Joiner
import LedgerClient.Net.Domain.NormalForm
import LedgerClient.Net.Domain.Spelling
import LedgerClient.Net.Punycode

/-! # Labels

The labels of a name stand between its points. A label in ASCII that begins with `xn--`
stands for one with other characters, which must be spelled as they would be written
out: all of them plain, and in the normal form.
-/

namespace LedgerClient.Domain

/-- How many characters a label may have, if not all are ASCII. -/
def labelLimit : Nat := 1000

/-- How many digits and letters may spell a label. -/
def spelledLimit : Nat := 2000

/-- Whether all characters are ASCII. -/
def isAscii (cs : List Char) : Bool := cs.all (·.toNat < 0x80)

/-- Whether characters make a label as they stand. -/
def isLabel (cs : List Char) : Bool :=
  isAscii cs ||
    (cs.drop labelLimit).isEmpty && !cs.head?.any isMark && joinersFit [] cs

/-- What the beginning of a label says that it is spelled in ASCII. -/
def spelledMark : List Char := "xn--".toList

/-- The label that plain characters in normal form stand for. -/
def label? (cs : List Char) : Option (List Char) :=
  if spelledMark.isPrefixOf cs then do
    let spelling := cs.drop spelledMark.length
    if !isAscii spelling || !(spelling.drop spelledLimit).isEmpty then none
    let label ← Punycode.decode? spelling
    if label.all isPlain && normalForm label == label && !spelledMark.isPrefixOf label &&
      isLabel label then some label else none
  else if isLabel cs then some cs
  else none

end LedgerClient.Domain
