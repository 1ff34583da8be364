import LedgerClient.Pattern.Bracket
import LedgerClient.Text.Alphanumeric

/-! # The form of patterns

A pattern is made of alternatives with bars between, each of which is a row of parts: a
character, any character, the beginning or the end, a class, or a group in parentheses.
A sign after a part says how often it may come. Nothing looks ahead or back, and parts
are not nested too deep.
-/

namespace LedgerClient.Pattern

/-- How deep the parts of a pattern may be nested. -/
def depthLimit : Nat := 250

/-- A group as far as it is read. -/
structure Group where
  /-- The mode that holds again after the group. -/
  outer : Mode
  /-- How deep the alternatives that are done are nested, if there are any. -/
  alternatives : Option Nat
  /-- How deep each part of the alternative under way is nested, the last in front. A
  change of the mode is a part that cannot be repeated. -/
  parts : List (Option Nat)

namespace Group

/-- A group with nothing read yet. -/
def begun (outer : Mode) : Group := ⟨outer, none, []⟩

/-- Put a part in. -/
def add (part : Option Nat) (group : Group) : Group := { group with parts := part :: group.parts }

/-- How deep the alternative under way is nested. -/
def rowDepth (group : Group) : Nat := Pattern.rowDepth (group.parts.map (·.getD 0))

/-- Go on with the next alternative. -/
def nextAlternative (group : Group) : Group :=
  { group with
    alternatives := some (max (group.alternatives.getD 0) group.rowDepth), parts := [] }

/-- How deep what is read is nested. -/
def depth (group : Group) : Nat :=
  match group.alternatives with
  | none => group.rowDepth
  | some done => max done group.rowDepth + 1

end Group

/-- A pattern as far as it is read. -/
structure Progress where
  mode : Mode
  /-- The groups under way, the innermost first; the whole pattern counts as one. -/
  groups : List Group
  /-- The names of groups. -/
  names : List (List Char)

namespace Progress

/-- Put a part into the innermost group. -/
def add (part : Option Nat) (progress : Progress) : Progress :=
  match progress.groups with
  | [] => progress
  | group :: outer => { progress with groups := group.add part :: outer }

/-- Begin a group with a mode of its own. -/
def beginGroup (mode : Mode) (progress : Progress) : Progress :=
  { progress with mode, groups := .begun progress.mode :: progress.groups }

/-- Whether a character may stand in the name of a group. -/
def isNameChar (isFirst : Bool) (c : Char) : Bool :=
  c == '_' || if isFirst then isAlphabetic c else ['.', '[', ']'].contains c || isAlphanumeric c

/-- Begin a group with a name, which no other group has. -/
def named? (cs : List Char) (progress : Progress) : Option (Progress × List Char) :=
  let name := cs.takeWhile (· != '>')
  match name, cs.dropWhile (· != '>') with
  | first :: others, '>' :: rest =>
    if isNameChar true first && others.all (isNameChar false) && !progress.names.contains name then
      some ({ progress.beginGroup progress.mode with names := name :: progress.names }, rest)
    else none
  | _, _ => none

/-- Change the mode, for a group of its own or from here on. -/
def changed? (cs : List Char) (progress : Progress) : Option (Progress × List Char) := do
  let ends := fun c : Char => c == ':' || c == ')'
  let letters := cs.takeWhile (!ends ·)
  let mode ← progress.mode.change? letters
  match cs.dropWhile (!ends ·) with
  | ':' :: rest => return (progress.beginGroup mode, rest)
  | ')' :: rest =>
    if letters.isEmpty then none else return ({ progress.add none with mode }, rest)
  | _ => none

/-- Begin a group, after its parenthesis. What looks ahead or back is refused. -/
def group? (cs : List Char) (progress : Progress) : Option (Progress × List Char) :=
  match progress.mode.skip cs with
  | '?' :: 'P' :: '<' :: rest => progress.named? rest
  | '?' :: '<' :: rest => progress.named? rest
  | '?' :: rest => progress.changed? rest
  | rest => some (progress.beginGroup progress.mode, rest)

/-- End the innermost group. -/
def endGroup? (progress : Progress) : Option Progress :=
  match progress.groups with
  | group :: next :: outer =>
    some { progress with
      mode := group.outer, groups := next.add (some (group.depth + 1)) :: outer }
  | _ => none

/-- Go on with the next alternative of the innermost group. -/
def nextAlternative (progress : Progress) : Progress :=
  match progress.groups with
  | [] => progress
  | group :: outer => { progress with groups := group.nextAlternative :: outer }

/-- Let the last part come more often or not at all. -/
def repeat? (progress : Progress) : Option Progress :=
  match progress.groups with
  | group :: outer =>
    match group.parts with
    | some depth :: others =>
      some { progress with groups := { group with parts := some (depth + 1) :: others } :: outer }
    | _ => none
  | [] => none

/-- Read what one character begins. The first argument is the number of characters at
least. -/
def step? (fuel : Nat) (c : Char) (rest : List Char) (progress : Progress) :
    Option (Progress × List Char) :=
  match c with
  | '(' => progress.group? rest
  | ')' => progress.endGroup?.map fun next => (next, rest)
  | '|' => some (progress.nextAlternative, rest)
  | '[' => do
    let (bracket, after) ← Bracket.begin? progress.mode fuel rest
    let (depth, after) ← Bracket.read? progress.mode fuel [bracket] after
    return (progress.add (some depth), after)
  | '\x7b' => none
  | '\\' => do
    match ← progress.mode.escape? rest with
    | (.literal _, after) =>
      if progress.mode.allowsLiterals then return (progress.add (some 0), after) else none
    | (_, after) => return (progress.add (some 0), after)
  | '.' => if progress.mode.isUnicode then some (progress.add (some 0), rest) else none
  | '^' => some (progress.add (some 0), rest)
  | '$' => some (progress.add (some 0), rest)
  | c =>
    if ['*', '+', '?'].contains c then
      let after := if rest.head? == some '?' then rest.tail else rest
      progress.repeat?.map fun next => (next, after)
    else if progress.mode.allowsLiterals then some (progress.add (some 0), rest)
    else none

/-- Whether what is left of a pattern completes it. Each call takes a character at
least. -/
def completes : Nat → Progress → List Char → Bool
  | 0, _, _ => false
  | fuel + 1, progress, cs =>
    match progress.mode.skip cs with
    | [] =>
      match progress.groups with
      | [group] => group.depth ≤ depthLimit
      | _ => false
    | c :: rest =>
      match progress.step? fuel c rest with
      | some (next, after) => completes fuel next after
      | none => false

end Progress

/-- Whether characters are a pattern that can be looked for. -/
def isPattern (cs : List Char) : Bool :=
  Progress.completes (cs.length + 1) ⟨.standard, [.begun .standard], []⟩ cs

example : isPattern "a**|[[:alpha:]-]?(?P<n>.)".toList = true := by decide +kernel

example : isPattern "(".toList = false := by decide +kernel

end LedgerClient.Pattern
