import LedgerClient.Settings.Setting

/-! # Settings from the environment

A variable whose name begins with `LEDGER__`, in letters of either case, sets a
value. In the rest of its name two underscores or a point stand for a step down, and
in each step other underscores join words.
-/

namespace LedgerClient.Environment

/-- What the names of variables begin with, in lowercase letters. -/
def marker : List Char := "ledger__".toList

/-- Two underscores become a point. -/
def stepDown : List Char → List Char
  | '_' :: '_' :: rest => '.' :: stepDown rest
  | c :: rest => c :: stepDown rest
  | [] => []

/-- Whether a character stands between words. -/
def isJoint (c : Char) : Bool := c == '_' || c == '-' || c == ' '

/-- The words of a name; the word under way is in reverse. -/
def wordsOnto (word : List Char) : List Char → List (List Char)
  | [] => [word.reverse]
  | c :: rest =>
    if isJoint c then word.reverse :: wordsOnto [] rest else wordsOnto (c :: word) rest

/-- Words joined by hyphens; empty ones are dropped. -/
def hyphenate (cs : List Char) : List Char :=
  ['-'].intercalate ((wordsOnto [] cs).filter (!·.isEmpty))

/-- The steps of a path with points, each hyphenated on its own. -/
def hyphenateSteps (cs : List Char) : List Char :=
  ['.'].intercalate ((cs.splitOn '.').map hyphenate)

/-- A letter of either case as a lowercase letter. The sign of the kelvin is the one
letter beyond ASCII whose lowercase is an ASCII letter. -/
def toLower (c : Char) : Char := if c = '\u212a' then 'k' else c.toLower

/-- The path that a variable sets. -/
def path? (name : String) : Option String :=
  let lower := name.toList.map toLower
  if marker.isPrefixOf lower then
    some (String.ofList (hyphenateSteps (stepDown (lower.drop marker.length))))
  else none

/-- The settings of an environment. Every value is a text. -/
def settings (environment : List (String × String)) : List (String × Setting) :=
  environment.filterMap fun entry => (path? entry.1).map fun path => (path, .text entry.2)

end LedgerClient.Environment
