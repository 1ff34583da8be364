import LedgerClient.Text.Numeral

/-! # Log levels

A level is an upper limit on how detailed the events are that pass. An event has a
level too, which is never `off`.
-/

namespace LedgerClient

/-- How detailed an event is, or how detailed events may be. -/
inductive LogLevel where
  | off
  | error
  | warn
  | info
  | debug
  | trace
deriving DecidableEq

namespace LogLevel

/-- The place of a level; the more detailed, the larger. -/
def rank : LogLevel → Nat
  | off => 0
  | error => 1
  | warn => 2
  | info => 3
  | debug => 4
  | trace => 5

/-- All levels in order. -/
def all : List LogLevel := [off, error, warn, info, debug, trace]

/-- The name of a level, in capitals. -/
def name : LogLevel → String
  | off => "OFF"
  | error => "ERROR"
  | warn => "WARN"
  | info => "INFO"
  | debug => "DEBUG"
  | trace => "TRACE"

/-- Whether a limit lets events of a level pass. -/
def allows (limit level : LogLevel) : Bool := level.rank ≤ limit.rank

/-- The level that a number stands for; a plus may precede its digits. -/
def ofDigits? (cs : List Char) : Option LogLevel :=
  (Numeral.parseUnsigned? cs).bind fun n => all[n]?

/-- The level that a word or a number stands for; an empty word means `error`. -/
def parse? (cs : List Char) : Option LogLevel :=
  match ofDigits? cs with
  | some level => some level
  | none =>
    if cs.isEmpty then some error
    else all.find? fun level => level.name.toList == cs.map Char.toUpper

end LogLevel

end LedgerClient
