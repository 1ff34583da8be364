import LedgerClient.Subscription.Error
import LedgerClient.Text.Diagnostic

/-! # Subscription errors in diagnostics

Each error has a form of its own, by which callers outside know it.
-/

namespace LedgerClient

/-- The form of an error class. -/
def SubscriptionErrorKind.form : SubscriptionErrorKind → String
  | malformedInput => "MalformedInput"
  | validationFailure => "ValidationFailure"
  | transportFailure => "TransportFailure"
  | capacityExceeded => "CapacityExceeded"
  | closed => "Closed"

namespace SubscriptionError

/-- The form and the parts of an error. -/
def diagnostic : SubscriptionError → Diagnostic
  | invalidUrl reason => .text "InvalidUrl" reason
  | invalidConfig reason => .text "InvalidConfig" reason
  | connect reason => .text "Connect" reason
  | transport reason => .text "Transport" reason
  | writeTimeout limit => .wrap "WriteTimeout" limit.render
  | pongTimeout limit => .wrap "PongTimeout" limit.render
  | connectionClosed => .plain "ConnectionClosed"
  | capacityExceeded pending => .number "CapacityExceeded" pending
  | rpc code message =>
    ⟨"Rpc", [⟨"code", toString code⟩, ⟨"message", Quoted.text message⟩]⟩
  | encode reason => .text "Encode" reason
  | decode reason => .text "Decode" reason
  | cancelled => .plain "Cancelled"
  | closed => .plain "Closed"

end SubscriptionError

end LedgerClient
