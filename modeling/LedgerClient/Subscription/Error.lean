import LedgerClient.Json.Tree
import LedgerClient.Time.Duration

/-! # What can go wrong with subscriptions

Some errors concern one subscription, others end the whole session and reach every
subscription in it.
-/

namespace LedgerClient

/-- Broad failure classes of subscriptions. -/
inductive SubscriptionErrorKind where
  /-- A frame or a payload that cannot be written or read. -/
  | malformedInput
  /-- Bad settings, or a request that the server refuses. -/
  | validationFailure
  /-- The connection is gone. -/
  | transportFailure
  /-- A subscriber fell behind. -/
  | capacityExceeded
  /-- The subscription is no longer usable. -/
  | closed
deriving DecidableEq

/-- Why an operation on a subscription or a session failed. -/
inductive SubscriptionError where
  | invalidUrl (reason : String)
  | invalidConfig (reason : String)
  | connect (reason : String)
  | transport (reason : String)
  | writeTimeout (limit : Duration)
  | pongTimeout (limit : Duration)
  | connectionClosed
  | capacityExceeded (pending : Nat)
  | rpc (code : Int) (message : String)
  | encode (reason : String)
  | decode (reason : String)
  | cancelled
  | closed
deriving DecidableEq

namespace SubscriptionError

/-- What cannot be read as JSON of the wanted shape cannot be decoded. -/
def ofJson (fault : Json.Fault) : SubscriptionError := decode fault.message

/-- The sentence shown to people. -/
def message : SubscriptionError → String
  | invalidUrl reason => s!"invalid websocket url: {reason}"
  | invalidConfig reason => s!"invalid client configuration: {reason}"
  | connect reason => s!"connect failed: {reason}"
  | transport reason => s!"transport failure: {reason}"
  | writeTimeout limit =>
    let shown := limit.render
    s!"write timed out after {shown}"
  | pongTimeout limit =>
    let shown := limit.render
    s!"no pong received within {shown}"
  | connectionClosed => "connection closed by peer"
  | capacityExceeded pending => s!"subscription queue full ({pending} pending results)"
  | rpc code message => s!"rpc error {code}: {message}"
  | encode reason => s!"failed to encode request: {reason}"
  | decode reason => s!"failed to decode notification: {reason}"
  | cancelled => "receive cancelled"
  | closed => "subscription is closed"

/-- The class an error belongs to. -/
def kind : SubscriptionError → SubscriptionErrorKind
  | encode _ | decode _ => .malformedInput
  | invalidUrl _ | invalidConfig _ | rpc _ _ => .validationFailure
  | connect _ | transport _ | writeTimeout _ | pongTimeout _ | connectionClosed =>
    .transportFailure
  | capacityExceeded _ => .capacityExceeded
  | cancelled | closed => .closed

/-- Whether the whole session is gone, and not just one subscription. -/
def isTransport (fault : SubscriptionError) : Bool := fault.kind == .transportFailure

end SubscriptionError

end LedgerClient
