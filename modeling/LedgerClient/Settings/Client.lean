import LedgerClient.Settings.Log
import LedgerClient.Time.Duration

/-! # Settings of a client

Waiting times are whole seconds. A ping is sent after nine tenths of the time in
which a pong must come, so a live peer has the last tenth to answer in.
-/

namespace LedgerClient

/-- How a client talks to a server. -/
structure ClientSettings where
  /-- Where the server is. -/
  url : String
  /-- How long to wait for a pong before the peer counts as dead. -/
  pongWait : UInt64
  /-- How long one frame may take to be written. -/
  writeWait : UInt64
  handshakeTimeout : UInt64
  /-- How many results wait for a subscriber at most. -/
  resultCapacity : UInt64
  /-- How many errors wait for a subscriber at most. -/
  errorCapacity : UInt64
  /-- Whether request ids have 31 bits and not 63. -/
  shortIds : Bool
  log : LogSettings
deriving DecidableEq

/-- Why settings are refused. -/
inductive SettingsFault where
  | notPositive (field : String)
  | errorCapacityTooLarge (errors results : UInt64)
deriving DecidableEq

/-- The wording of a fault. -/
def SettingsFault.message : SettingsFault → String
  | notPositive field => s!"{field} must be positive"
  | errorCapacityTooLarge errors results =>
    s!"error-capacity ({errors}) must be smaller than result-capacity ({results})"

namespace ClientSettings

/-- The settings without any choice. -/
def standard : ClientSettings where
  url := "ws://127.0.0.1:8900"
  pongWait := 60
  writeWait := 10
  handshakeTimeout := 45
  resultCapacity := 200000
  errorCapacity := 100000
  shortIds := false
  log := .standard

/-- Check the settings field by field. -/
def validate (settings : ClientSettings) : Except SettingsFault Unit :=
  if settings.pongWait = 0 then .error (.notPositive "pong-wait-secs")
  else if settings.writeWait = 0 then .error (.notPositive "write-wait-secs")
  else if settings.resultCapacity = 0 then .error (.notPositive "result-capacity")
  else if settings.errorCapacity = 0 then .error (.notPositive "error-capacity")
  else if settings.resultCapacity ≤ settings.errorCapacity then
    .error (.errorCapacityTooLarge settings.errorCapacity settings.resultCapacity)
  else .ok ()

/-- How long to wait for a pong. -/
def pongLimit (settings : ClientSettings) : Duration := .ofSeconds settings.pongWait.toNat

/-- The time between pings: nine tenths of the wait. The nine-fold is taken in whole
seconds of 64 bits first, and there is no period if it does not fit. -/
def pingPeriod? (settings : ClientSettings) : Option Duration :=
  let ninefold := settings.pongWait.toNat * 9
  if ninefold < 2 ^ 64 then some ⟨ninefold * Duration.second / 10⟩ else none

/-- The names of the fields, in order. -/
def fieldNames : List String :=
  ["ws-url", "pong-wait-secs", "write-wait-secs", "handshake-timeout-secs", "result-capacity",
    "error-capacity", "short-id", "log"]

/-- Settings in JSON; every field may be left out. -/
def shape {τ ν : Type} [Json.Meaning τ ν] : Json.Shape τ ν ClientSettings := fun depth tree => do
  let fields ← Json.Fields.ofTree fieldNames depth tree
  let url ← fields.withDefault "ws-url" standard.url .text
  let pongWait ← fields.withDefault "pong-wait-secs" standard.pongWait .word
  let writeWait ← fields.withDefault "write-wait-secs" standard.writeWait .word
  let handshake ← fields.withDefault "handshake-timeout-secs" standard.handshakeTimeout .word
  let results ← fields.withDefault "result-capacity" standard.resultCapacity .word
  let errors ← fields.withDefault "error-capacity" standard.errorCapacity .word
  let shortIds ← fields.withDefault "short-id" standard.shortIds .bool
  let log ← fields.withDefault "log" standard.log LogSettings.shape
  return ⟨url, pongWait, writeWait, handshake, results, errors, shortIds, log⟩

/-- Settings from a tree; every field may be left out. -/
def ofSetting? (setting : Setting) : Option ClientSettings := do
  let fields ← setting.fields? fieldNames
  let word := fun name default => Setting.field fields name default Setting.asWord?
  return ⟨← Setting.field fields "ws-url" standard.url Setting.asText?,
    ← word "pong-wait-secs" standard.pongWait,
    ← word "write-wait-secs" standard.writeWait,
    ← word "handshake-timeout-secs" standard.handshakeTimeout,
    ← word "result-capacity" standard.resultCapacity,
    ← word "error-capacity" standard.errorCapacity,
    ← Setting.field fields "short-id" standard.shortIds Setting.asBool?,
    ← Setting.field fields "log" standard.log LogSettings.ofSetting?⟩

end ClientSettings

end LedgerClient
