import LedgerClient.Json.Printer
import LedgerClient.Log.Level
import LedgerClient.Message.Basic

/-! # Log events

An event has a level, a target, a message and named values. Its line is plain text
or a JSON object; the time of writing is left to the writer.
-/

namespace LedgerClient

/-- Something that happened. -/
structure LogEvent where
  level : LogLevel
  /-- The part of the program that it happened in. -/
  target : String
  message : String
  /-- Named values: numbers, and texts that are shown without quotes. -/
  fields : List (String × Json)

namespace LogEvent

/-- A value in a plain line. -/
def plainValue : Json → String
  | .text t => t
  | value => value.render

/-- The plain line of an event. -/
def plainLine (event : LogEvent) : String :=
  let fields := event.fields.map fun field => " " ++ field.1 ++ "=" ++ plainValue field.2
  event.level.name ++ " " ++ event.target ++ ": " ++ event.message ++ String.join fields

/-- An event as JSON. -/
def toJson (event : LogEvent) : Json :=
  .ofMembers [
    ("level", .text event.level.name),
    ("target", .text event.target),
    ("fields", .ofMembers (("message", .text event.message) :: event.fields))]

end LogEvent

/-- The event of having compiled a message, whose first key pays. -/
def Message.compiledEvent (message : Message) : LogEvent where
  level := .debug
  target := "ledger_core::compiler"
  message := "compiled message"
  fields := [
    ("fee_payer", .text (message.keys.headD .zero).text),
    ("num_required_signatures", .ofNat message.header.required.toNat),
    ("num_readonly_signed", .ofNat message.header.readonlySigned.toNat),
    ("num_readonly_unsigned", .ofNat message.header.readonlyUnsigned.toNat),
    ("static_keys", .ofNat message.keys.length),
    ("lookups", .ofNat message.lookups.length),
    ("version", .text (match message.version with
      | .legacy => "Legacy"
      | .v0 => "V0"))]

end LedgerClient
