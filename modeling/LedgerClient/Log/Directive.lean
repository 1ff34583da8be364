import LedgerClient.Log.Level
import LedgerClient.Pattern.Form
import LedgerClient.Text.Blank

/-! # Log directives

A directive is a level with the events it is for: `target[span\x7bfield=value\x7d]=level`,
of which most parts may be left out. A word on its own is a level if there is such
a level, and otherwise a target of which everything is wanted.
-/

namespace LedgerClient

/-- A field that an event must have, and the value wanted of it. -/
structure FieldPattern where
  name : String
  value : Option String
deriving DecidableEq

/-- A level, and what it is for. -/
structure LogDirective where
  /-- What the targets of events begin with. -/
  target : Option String
  /-- The span in which events occur. -/
  span : Option String
  fields : List FieldPattern
  level : LogLevel
deriving DecidableEq

namespace LogDirective

/-- What is being read, and where it began. -/
inductive Reading where
  | start
  | levelOrTarget (first : Nat)
  | span (first : Nat)
  | field (first : Nat)
  | afterFields
  | afterSpan
  | level (first : Nat)

/-- A directive for everything, with nothing read yet. -/
def unread : LogDirective := ⟨none, none, [], .trace⟩

/-- The part of a text between two places. -/
def cut (cs : List Char) (first last : Nat) : List Char := (cs.drop first).take (last - first)

/-- A field before its closing brace: a name, with a value after an equals sign. A value
is a number or a pattern; a second equals sign ends it. -/
def field? (cs : List Char) : Option FieldPattern :=
  let name := String.ofList (cs.takeWhile (· != '='))
  match cs.dropWhile (· != '=') with
  | [] => some ⟨name, none⟩
  | _ :: rest =>
    let value := rest.takeWhile (· != '=')
    if Numeral.isReal value || Pattern.isPattern value then some ⟨name, some (String.ofList value)⟩
    else none

/-- Whether a directive may begin with a character, other than a bracket. -/
def isOpening (c : Char) : Bool := c == '-' || c == ':' || c == '_' || isAlphanumeric c

/-- Read the character `c` at place `i`; parts are cut from `cs`. -/
def step (cs : List Char) (i : Nat) (c : Char) (found : LogDirective) :
    Reading → Option (LogDirective × Reading)
  | .start =>
    if c = '[' then some (found, .span (i + 1))
    else if isOpening c then some (found, .levelOrTarget i)
    else none
  | .levelOrTarget first =>
    let target := some (String.ofList (cut cs first i))
    if c = '=' then some (⟨target, found.span, found.fields, found.level⟩, .level (i + 1))
    else if c = '[' then some (⟨target, found.span, found.fields, found.level⟩, .span (i + 1))
    else some (found, .levelOrTarget first)
  | .span first =>
    let name := cut cs first i
    if c = ']' then some ({ found with span := some (String.ofList name) }, .afterSpan)
    else if c = '\x7b' then
      let span := if name.isEmpty then none else some (String.ofList name)
      some ({ found with span }, .field (i + 1))
    else some (found, .span first)
  | .field first =>
    if c = '\x7d' then
      let spelled := cut cs first i
      if spelled.isEmpty then none
      else (field? spelled).map fun field =>
        ({ found with fields := found.fields ++ [field] }, .afterFields)
    else some (found, .field first)
  | .afterFields => if c = ']' then some (found, .afterSpan) else none
  | .afterSpan => if c = '=' then some (found, .level (i + 1)) else none
  | .level first => some (found, .level first)

/-- Read characters from place `i` on. -/
def run (cs : List Char) (i : Nat) (found : LogDirective) (reading : Reading) :
    List Char → Option (LogDirective × Reading)
  | [] => some (found, reading)
  | c :: rest => (step cs i c found reading).bind fun (found, reading) =>
    run cs (i + 1) found reading rest

/-- What the last part says, once nothing follows. A level that is left out after its
equals sign lets everything pass. -/
def finish (cs : List Char) (found : LogDirective) : Reading → Option LogDirective
  | .levelOrTarget first =>
    match cs.drop first with
    | [] => some found
    | word => match LogLevel.parse? word with
      | some level => some { found with level }
      | none => some { found with target := some (String.ofList word) }
  | .level first =>
    match cs.drop first with
    | [] => some found
    | word => (LogLevel.parse? word).map fun level => { found with level }
  | .afterSpan => some found
  | _ => none

/-- The directive that a text spells. Blanks around it do not count for its form,
but its parts are cut from the text as it is, at the places counted without the blanks. -/
def parse? (text : String) : Option LogDirective :=
  let cs := text.toList
  (run cs 0 unread .start (stripEnds isBlank cs)).bind fun (found, reading) =>
    finish cs found reading

end LogDirective

end LedgerClient
