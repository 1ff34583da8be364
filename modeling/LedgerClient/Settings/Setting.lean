import LedgerClient.Decimal.Notation
import LedgerClient.Text.Numeral

/-! # Settings before they are understood

Settings come from several sources as trees of one kind. A value is read with
some good will: a number may be given as a text, a truth value as a word.
-/

namespace LedgerClient

/-- A number that need not be whole. -/
inductive Real where
  | finite (x : Binary64)
  | infinite (isNegative : Bool)
  | notANumber
deriving DecidableEq

namespace Real

/-- Finite numbers are written out in full. -/
def style : DecimalStyle :=
  { leastPoint := -400, greatestPoint := 400, wholeEnding := "", exponentMark := "e"
    negativeExponentMark := "e-" }

/-- The text of a number. -/
def render : Real → String
  | finite x => style.render x
  | infinite true => "-inf"
  | infinite false => "inf"
  | notANumber => "NaN"

/-- The nearest whole number of 64 bits without sign; a half goes away from zero. -/
def toWord : Real → UInt64
  | finite x =>
    if x.isNegative then 0
    else
      let whole := (2 * Binary64.units x.rank + Binary64.unit) / (2 * Binary64.unit)
      UInt64.ofNat (min whole (2 ^ 64 - 1))
  | infinite isNegative => if isNegative then 0 else UInt64.ofNat (2 ^ 64 - 1)
  | notANumber => 0

end Real

/-- A value from a source of settings. -/
inductive Setting where
  | nothing
  | bool (b : Bool)
  | integer (n : Int)
  | real (x : Real)
  | text (s : String)
  | list (items : List Setting)
  | table (entries : List (String × Setting))

namespace Setting

/-- A step from a value to a part of it. -/
inductive Step where
  | key (name : String)
  /-- The place in a list; a negative one counts from the end. -/
  | index (place : Int)
deriving DecidableEq

/-- Set the entry of a name, which is put last if it is new. -/
def setEntry (name : String) (update : Setting → Setting) :
    List (String × Setting) → List (String × Setting)
  | [] => [(name, update .nothing)]
  | entry :: rest =>
    if entry.1 = name then (name, update entry.2) :: rest else entry :: setEntry name update rest

/-- The entries of a table; another value has none. -/
def entries : Setting → List (String × Setting)
  | .table entries => entries
  | _ => []

/-- The items of a list; another value has none. -/
def items : Setting → List Setting
  | .list items => items
  | _ => []

/-- Change the item at a place of a list, which is made long enough. -/
def setItem (place : Int) (update : Setting → Setting) (items : List Setting) : List Setting :=
  let length : Int := items.length
  let missing := if place < 0 then (-(length + place)).toNat else 0
  let padded := List.replicate missing .nothing ++ items
  let index := if place < 0 then (length + place).toNat else place.toNat
  let grown := padded ++ List.replicate (index + 1 - padded.length) .nothing
  grown.modify index update

mutual

/-- Put a value in the place of another. Tables are merged, entry by entry. -/
def merge : Setting → Setting → Setting
  | .table added, old => mergeEntries added old.entries
  | value, _ => value

/-- Put entries into a table. -/
def mergeEntries : List (String × Setting) → List (String × Setting) → Setting
  | [], entries => .table entries
  | (name, value) :: rest, entries => mergeEntries rest (setEntry name (merge value) entries)

end

/-- Put a value at the end of a path. What stands in the way is replaced. -/
def setAt (value : Setting) : List Step → Setting → Setting
  | [], old => merge value old
  | .key name :: rest, old => .table (setEntry name (setAt value rest) old.entries)
  | .index place :: rest, old => .list (setItem place (setAt value rest) old.items)

/-- Whether a character may stand in a name on a path. -/
def isNameChar (c : Char) : Bool := c.isAlphanum || c == '_' || c == '-'

/-- A name at the front of a text, and what follows it. -/
def splitName (cs : List Char) : Option (String × List Char) :=
  match cs.takeWhile isNameChar with
  | [] => none
  | name => some (String.ofList name, cs.dropWhile isNameChar)

/-- A place in brackets, after the opening one, and what follows it. -/
def splitPlace (cs : List Char) : Option (Int × List Char) :=
  let isBlank := fun c : Char => c == ' ' || c == '\t'
  let inside := cs.dropWhile isBlank
  let (isNegative, digits) := match inside with
    | '-' :: rest => (true, rest)
    | rest => (false, rest)
  match Numeral.parse? 10 (digits.takeWhile Char.isDigit),
    (digits.dropWhile Char.isDigit).dropWhile isBlank with
  | some place, ']' :: rest =>
    let place : Int := place
    if place < 2 ^ 63 then some (if isNegative then -place else place, rest) else none
  | _, _ => none

/-- The steps of a path after its first name; each takes a character at least. -/
def stepsFrom : Nat → List Char → Option (List Step)
  | _, [] => some []
  | 0, _ => none
  | fuel + 1, '.' :: rest => do
    let (name, more) ← splitName rest
    return .key name :: (← stepsFrom fuel more)
  | fuel + 1, '[' :: rest => do
    let (place, more) ← splitPlace rest
    return .index place :: (← stepsFrom fuel more)
  | _, _ => none

/-- The steps of a path: names with points between them, and places in brackets. -/
def parsePath? (path : String) : Option (List Step) := do
  let (name, rest) ← splitName path.toList
  return .key name :: (← stepsFrom rest.length rest)

/-- Put a value into a table under a path, or under a name that is no path. -/
def assign (settings : Setting) (path : String) (value : Setting) : Setting :=
  setAt value ((parsePath? path).getD [.key path]) settings

/-- The settings of some entries, put in place in order. -/
def assignAll (settings : Setting) (entries : List (String × Setting)) : Setting :=
  entries.foldl (fun all entry => all.assign entry.1 entry.2) settings

/-! ### Reading -/

/-- Lowercase letters, for words. -/
def lowercase (s : String) : String := String.ofList (s.toList.map Char.toLower)

/-- A truth value, also as a word or a number. -/
def asBool? : Setting → Option Bool
  | .bool b => some b
  | .integer n => some (n ≠ 0)
  | .real (.finite x) => some (x.rank ≠ 0)
  | .real _ => some true
  | .text s =>
    if ["1", "true", "on", "yes"].contains (lowercase s) then some true
    else if ["0", "false", "off", "no"].contains (lowercase s) then some false
    else none
  | _ => none

/-- A number of 64 bits without sign in decimal digits, which a plus may precede. -/
def parseWord? (s : String) : Option UInt64 :=
  match Numeral.parseUnsigned? s.toList with
  | some n => if n < 2 ^ 64 then some (UInt64.ofNat n) else none
  | none => none

/-- A number of 64 bits without sign, also as a text or a truth value. -/
def asWord? : Setting → Option UInt64
  | .integer n => if 0 ≤ n ∧ n < 2 ^ 64 then some (UInt64.ofNat n.toNat) else none
  | .bool b => some (if b then 1 else 0)
  | .real x => some x.toWord
  | .text s =>
    if ["true", "on", "yes"].contains (lowercase s) then some 1
    else if ["false", "off", "no"].contains (lowercase s) then some 0
    else parseWord? s
  | _ => none

/-- A text; numbers and truth values have one too. -/
def asText? : Setting → Option String
  | .text s => some s
  | .bool b => some (if b then "true" else "false")
  | .integer n => some (toString n)
  | .real x => some x.render
  | _ => none

/-- One of some names, as a text or as the only name in a table. -/
def asChoice? {α : Type} (choices : List (String × α)) : Setting → Option α
  | .text s => choices.lookup s
  | .table [(name, _)] => choices.lookup name
  | _ => none

/-- The fields of a record by name: the entries of a table, or the items of a list
in order. Items beyond the fields are passed over. -/
def fields? (names : List String) : Setting → Option (List (String × Setting))
  | .table entries => some entries
  | .list items => some (names.zip items)
  | _ => none

/-- A field with a value for when it is not given. -/
def field {α : Type} (fields : List (String × Setting)) (name : String) (default : α)
    (read : Setting → Option α) : Option α :=
  match fields.lookup name with
  | some value => read value
  | none => some default

end Setting

end LedgerClient
