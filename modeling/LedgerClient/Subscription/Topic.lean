import LedgerClient.Json.Printer
import LedgerClient.Rpc.Call
import LedgerClient.Subscription.Notification

/-! # What can be subscribed to

A topic says how to ask for notifications, how to end them, and how to read them.
-/

namespace LedgerClient

/-- Something to subscribe to, which tells of values in `α`. -/
structure Topic (α : Type) where
  method : String
  unsubscribeMethod : String
  params : List Json
  /-- Sorted by name. -/
  settings : List (String × Json)
  decode : Json → Except SubscriptionError α

namespace Topic

/-- The same topic, with a function of its values. -/
def map {α β : Type} (f : α → β) (topic : Topic α) : Topic β where
  method := topic.method
  unsubscribeMethod := topic.unsubscribeMethod
  params := topic.params
  settings := topic.settings
  decode json := (topic.decode json).map f

/-- Read a value of a shape. -/
def decodeShape {α : Type} (shape : NotificationShape α) (json : Json) :
    Except SubscriptionError α :=
  match Json.decodeWith shape json with
  | .ok value => .ok value
  | .error fault => .error (.ofJson fault)

/-- The setting of a commitment, if there is one. -/
def commitmentSetting : Option Commitment → List (String × Json)
  | some commitment => [("commitment", commitment.toJson)]
  | none => []

/-- Changes of an account. -/
def account (key : PublicKey) (commitment : Option Commitment)
    (encoding : Option AccountEncoding) : Topic (Notification Account) where
  method := "accountSubscribe"
  unsubscribeMethod := "accountUnsubscribe"
  params := [key.toJson]
  settings := commitmentSetting commitment ++ [("encoding", (encoding.getD .standard).toJson)]
  decode := decodeShape (Notification.shape Account.shape)

/-- Logs of the transactions that a filter covers. -/
def logs (filter : LogsFilter) (commitment : Option Commitment) :
    Topic (Notification TransactionLogs) where
  method := "logsSubscribe"
  unsubscribeMethod := "logsUnsubscribe"
  params := [filter.toJson]
  settings := commitmentSetting commitment
  decode := decodeShape (Notification.shape TransactionLogs.shape)

/-- Values as they come. -/
def values (method unsubscribeMethod : String) (params : List Json)
    (settings : List (String × Json)) : Topic Json :=
  ⟨method, unsubscribeMethod, params, settings, .ok⟩

/-- Numbers of 64 bits without sign. -/
def words (method unsubscribeMethod : String) (params : List Json)
    (settings : List (String × Json)) : Topic UInt64 where
  method := method
  unsubscribeMethod := unsubscribeMethod
  params := params
  settings := settings
  decode json := match json.asWord? with
    | some n => .ok n
    | none =>
      let shown := json.render
      .error (.decode s!"not a number: {shown}")

end Topic

end LedgerClient
