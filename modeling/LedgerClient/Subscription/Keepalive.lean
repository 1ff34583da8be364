import LedgerClient.Settings.Client

/-! # Keeping a connection alive

Pings are sent at the multiples of a period. The peer counts as dead once it has
been silent for longer than it may: only pongs count, not what else it says. All
times are counted from the start.
-/

namespace LedgerClient

/-- The clock of a connection. -/
structure Keepalive where
  /-- How long the peer may be silent. -/
  wait : Duration
  /-- The time between pings. -/
  period : Duration
  now : Duration
  /-- When the peer counts as dead. -/
  deadline : Duration
deriving DecidableEq

namespace Keepalive

/-- The clock at the start. -/
def start (wait period : Duration) : Keepalive := ⟨wait, period, ⟨0⟩, wait⟩

/-- The clock that settings ask for, if there is a period. -/
def ofSettings? (settings : ClientSettings) : Option Keepalive :=
  settings.pingPeriod?.map (start settings.pongLimit)

/-- Let time go by. -/
def advance (span : Duration) (clock : Keepalive) : Keepalive :=
  { clock with now := ⟨clock.now.nanoseconds + span.nanoseconds⟩ }

/-- How many pings fall due after now, while time goes by. -/
def pingsDue (span : Duration) (clock : Keepalive) : Nat :=
  (clock.advance span).now.nanoseconds / clock.period.nanoseconds -
    clock.now.nanoseconds / clock.period.nanoseconds

/-- A pong has come, so the peer may be silent again. -/
def pong (clock : Keepalive) : Keepalive :=
  { clock with deadline := ⟨clock.now.nanoseconds + clock.wait.nanoseconds⟩ }

/-- Whether the peer counts as dead. -/
def isExpired (clock : Keepalive) : Bool :=
  clock.deadline.nanoseconds ≤ clock.now.nanoseconds

end Keepalive

end LedgerClient
