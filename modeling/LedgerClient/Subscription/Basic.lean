import LedgerClient.Subscription.Queue
import LedgerClient.Subscription.Topic
import LedgerClient.Text.Diagnostic

/-! # Subscriptions

A subscription has a queue of results and a queue of errors. Results are put in
without waiting: a subscriber that does not keep up loses the subscription. An error
ends it, and is told ahead of the results that still wait.
-/

namespace LedgerClient

/-- A subscription, from both ends: what is put in and what its holder takes out. -/
structure Subscription (α : Type) where
  requestId : UInt64
  method : String
  unsubscribeMethod : String
  decode : Json → Except SubscriptionError α
  /-- The server's id, once the server has acknowledged. It never changes. -/
  serverId : Option UInt64
  results : BoundedQueue α
  errors : BoundedQueue SubscriptionError
  /-- Whether somebody can still take something out. -/
  isHeld : Bool
  /-- Whether its holder has seen its end. -/
  isClosed : Bool

/-- What taking something out comes to. -/
inductive Receipt (α : Type) where
  /-- There is nothing yet. -/
  | pending
  | value (value : α)
  | failed (reason : SubscriptionError)

namespace Subscription

variable {α : Type}

/-- A subscription to a topic before the server has acknowledged it. -/
def ofTopic (topic : Topic α) (requestId : UInt64) (resultCapacity errorCapacity : Nat) :
    Subscription α where
  requestId := requestId
  method := topic.method
  unsubscribeMethod := topic.unsubscribeMethod
  decode := topic.decode
  serverId := none
  results := .empty resultCapacity
  errors := .empty errorCapacity
  isHeld := true
  isClosed := false

/-- Read a result and let it wait. -/
def deliver (result : Json) (subscription : Subscription α) :
    Except SubscriptionError (Subscription α) :=
  match subscription.decode result with
  | .error reason => .error reason
  | .ok value =>
    if !subscription.isHeld then .error .closed
    else match subscription.results.push? value with
      | some results => .ok { subscription with results }
      | none => .error (.capacityExceeded subscription.results.capacity)

/-- Let an error wait. There is no room for it only behind another error. -/
def fail (reason : SubscriptionError) (subscription : Subscription α) : Subscription α :=
  if !subscription.isHeld then subscription
  else { subscription with errors := (subscription.errors.push? reason).getD subscription.errors }

/-- Take out an error if one waits, and else the oldest result. Being cancelled comes
before both. -/
def receive (isCancelled : Bool) (subscription : Subscription α) : Receipt α × Subscription α :=
  if subscription.isClosed then (.failed .closed, subscription)
  else if isCancelled then (.failed .cancelled, subscription)
  else match subscription.errors.pop? with
    | some (reason, errors) => (.failed reason, { subscription with errors, isClosed := true })
    | none =>
      match subscription.results.pop? with
      | some (value, results) => (.value value, { subscription with results })
      | none => (.pending, subscription)

/-- A subscription in diagnostics. -/
def diagnostic (subscription : Subscription α) : Diagnostic :=
  let serverId : Diagnostic := match subscription.serverId with
    | some id => .number "Some" id.toNat
    | none => .plain "None"
  ⟨"Subscription",
    [⟨"method", Quoted.text subscription.method⟩,
      ⟨"request_id", toString subscription.requestId⟩,
      ⟨"subscription_id", serverId.render⟩,
      ⟨"closed", if subscription.isClosed then "true" else "false"⟩]⟩

end Subscription

end LedgerClient
