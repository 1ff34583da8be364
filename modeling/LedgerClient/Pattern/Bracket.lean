import LedgerClient.Pattern.Mode

/-! # Classes of characters

A class stands in brackets: characters, ranges of them, classes with a name, and
further classes in brackets, with signs between for what is in both, in the first
only, or in one of the two. What is not in a class is refused where only ASCII counts.
-/

namespace LedgerClient.Pattern

/-- A class as far as it is read. -/
structure Bracket where
  /-- How deep the classes before the last sign are nested, if there is a sign. -/
  before : Option Nat
  /-- How deep each item after it is nested, the last in front. -/
  items : List Nat

namespace Bracket

/-- How deep what is read is nested. -/
def depth (bracket : Bracket) : Nat :=
  match bracket.before with
  | none => rowDepth bracket.items
  | some before => max before (rowDepth bracket.items) + 1

/-- Put an item in. -/
def add (item : Nat) (bracket : Bracket) : Bracket :=
  { bracket with items := item :: bracket.items }

/-- Go on after a sign. -/
def afterSign (bracket : Bracket) : Bracket := ⟨some bracket.depth, []⟩

/-- The classes that have a name. -/
def names : List String :=
  ["alnum", "alpha", "ascii", "blank", "cntrl", "digit", "graph", "lower", "print", "punct",
   "space", "upper", "word", "xdigit"]

/-- What follows a class with a name, after its bracket, and whether it stands for what
is not in the class. -/
def named? : List Char → Option (Bool × List Char)
  | ':' :: cs =>
    let isNegated := cs.head? == some '^'
    let body := if isNegated then cs.tail else cs
    match body.dropWhile (· != ':') with
    | ':' :: ']' :: rest =>
      if names.contains (String.ofList (body.takeWhile (· != ':'))) then some (isNegated, rest)
      else none
    | _ => none
  | _ => none

/-- Count the hyphens in front, which stand for themselves. The first argument is the
number of characters at least. -/
def leadingHyphens (mode : Mode) : Nat → List Char → Nat × List Char
  | 0, cs => (0, cs)
  | fuel + 1, cs =>
    match cs with
    | '-' :: rest =>
      let (count, after) := leadingHyphens mode fuel (mode.skip rest)
      (count + 1, after)
    | cs => (0, cs)

/-- Begin a class, after its bracket. A closing bracket that comes first stands for
itself. The number of characters is at most `fuel`. -/
def begin? (mode : Mode) (fuel : Nat) (cs : List Char) : Option (Bracket × List Char) := do
  let first := mode.skip cs
  let isNegated := first.head? == some '^'
  let body := if isNegated then mode.skip first.tail else first
  let (count, rest) := leadingHyphens mode fuel body
  let (items, rest) :=
    match rest with
    | ']' :: more => if count = 0 then ([0], mode.skip more) else (List.replicate count 0, rest)
    | rest => (List.replicate count 0, rest)
  if (isNegated && !mode.isUnicode) || (!items.isEmpty && !mode.allowsLiterals) then none
  else return (⟨none, items⟩, rest)

/-- One character or class of an item. -/
def element? (mode : Mode) : List Char → Option (Escaped × List Char)
  | [] => none
  | '\\' :: rest => mode.escape? rest
  | c :: rest => some (.literal c, rest)

/-- Whether a character may be in a class. -/
def allows (mode : Mode) (c : Char) : Bool :=
  mode.allowsLiterals && (mode.isUnicode || c.toNat < 0x80)

/-- What follows a character, a class or a range of characters. A hyphen before a
closing bracket or another hyphen makes no range. -/
def item? (mode : Mode) (cs : List Char) : Option (List Char) := do
  let (first, rest) ← element? mode cs
  let rest := mode.skip rest
  let afterHyphen := (mode.skip rest.tail).head?
  let isRange := rest.head? == some '-' && afterHyphen != some ']' && afterHyphen != some '-'
  match first with
  | .place => none
  | .named => if isRange then none else return rest
  | .literal c =>
    if !allows mode c then none
    else if isRange then
      match ← element? mode (mode.skip rest.tail) with
      | (.literal last, after) => if allows mode last && c ≤ last then return after else none
      | _ => none
    else return rest

/-- How deep a class is nested, and what follows it. The classes under way are listed
from the inside; each call takes a character at least. -/
def read? (mode : Mode) : Nat → List Bracket → List Char → Option (Nat × List Char)
  | 0, _, _ => none
  | _, [], _ => none
  | fuel + 1, bracket :: outer, cs =>
    match mode.skip cs with
    | [] => none
    | ']' :: rest =>
      match outer with
      | [] => some (bracket.depth + 1, rest)
      | next :: more => read? mode fuel (next.add (bracket.depth + 1) :: more) rest
    | '&' :: '&' :: rest => read? mode fuel (bracket.afterSign :: outer) rest
    | '-' :: '-' :: rest => read? mode fuel (bracket.afterSign :: outer) rest
    | '~' :: '~' :: rest => read? mode fuel (bracket.afterSign :: outer) rest
    | '[' :: rest =>
      match named? rest with
      | some (isNegated, after) =>
        if (isNegated && !mode.isUnicode) || !mode.allowsLiterals then none
        else read? mode fuel (bracket.add 0 :: outer) after
      | none =>
        match begin? mode fuel rest with
        | none => none
        | some (inner, after) => read? mode fuel (inner :: bracket :: outer) after
    | rest =>
      match item? mode rest with
      | none => none
      | some after => read? mode fuel (bracket.add 0 :: outer) after

end Bracket

end LedgerClient.Pattern
