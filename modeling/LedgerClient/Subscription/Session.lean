import LedgerClient.Subscription.Basic
import LedgerClient.Subscription.Frame
import LedgerClient.Subscription.IdTable
import LedgerClient.Subscription.Request
import LedgerClient.Subscription.RequestId

/-! # Sessions

A session holds many subscriptions on one socket. Requests are known by the
client's ids, and subscriptions that the server has acknowledged by the server's ids
too. A request that is given up before it is acknowledged is remembered, so that the
server can be told once its id is known.

A subscription is known to its holder by its place among all subscriptions of the
session, which it keeps when it leaves the tables.
-/

namespace LedgerClient

/-- The subscriptions of a session and what they are known by. -/
structure Session (α : Type) where
  ids : IdSource
  /-- All subscriptions in the order of their requests. -/
  subscriptions : List (Subscription α)
  /-- Places of live subscriptions, by request id. -/
  byRequest : IdTable Nat
  /-- Places of acknowledged subscriptions, by the server's id. -/
  bySubscription : IdTable Nat
  /-- How to end the subscriptions of requests that were given up. -/
  cancelled : IdTable String

namespace Session

variable {α : Type}

/-- A session without subscriptions. -/
def start (ids : IdSource) : Session α := ⟨ids, [], .empty, .empty, .empty⟩

/-- Change the subscription at a place. -/
def update (session : Session α) (place : Nat) (change : Subscription α → Subscription α) :
    Session α :=
  { session with subscriptions := session.subscriptions.modify place change }

/-- The live subscription of a request and its place. -/
def live? (session : Session α) (requestId : UInt64) : Option (Nat × Subscription α) := do
  let place ← session.byRequest.find? requestId
  return (place, ← session.subscriptions[place]?)

/-- The request that ends a subscription. -/
def unsubscribeRequest (serverId : UInt64) (method : String) (session : Session α) :
    Session α × SocketRequest :=
  let (id, ids) := session.ids.draw
  ({ session with ids }, .ofSettings method [.ofNat serverId.toNat] [] id)

/-! ### What its holder does -/

/-- Add a subscription under a fresh request id. -/
def register (topic : Topic α) (resultCapacity errorCapacity : Nat) (session : Session α) :
    Option (Session α × Nat × SocketRequest) := do
  let (id, ids) ← session.ids.drawFree session.byRequest.contains
  let place := session.subscriptions.length
  let subscription := Subscription.ofTopic topic id resultCapacity errorCapacity
  return ({ session with
      ids, subscriptions := session.subscriptions ++ [subscription]
      byRequest := session.byRequest.insert id place },
    place, .ofSettings topic.method topic.params topic.settings id)

/-- Remove a subscription from both tables. -/
def remove (requestId : UInt64) (session : Session α) :
    Option (Session α × Nat × Subscription α) := do
  let (place, subscription) ← session.live? requestId
  let bySubscription := match subscription.serverId with
    | some serverId => session.bySubscription.erase serverId
    | none => session.bySubscription
  return ({ session with byRequest := session.byRequest.erase requestId, bySubscription },
    place, subscription)

/-- Remove a subscription that is not wanted any more. The request that ends it is
due now, or else when the server acknowledges. -/
def cancel (requestId : UInt64) (session : Session α) : Session α × Option SocketRequest :=
  match session.remove requestId with
  | none => (session, none)
  | some (session, _, subscription) =>
    match subscription.serverId with
    | some serverId =>
      let (session, request) := session.unsubscribeRequest serverId subscription.unsubscribeMethod
      (session, some request)
    | none =>
      let cancelled := session.cancelled.insert requestId subscription.unsubscribeMethod
      ({ session with cancelled }, none)

/-- Take something out of a subscription, and nothing from a place without one. -/
def receive (place : Nat) (isCancelled : Bool) (session : Session α) : Receipt α × Session α :=
  match session.subscriptions[place]? with
  | none => (.failed .closed, session)
  | some subscription =>
    let (receipt, after) := subscription.receive isCancelled
    (receipt, session.update place fun _ => after)

/-- End a subscription that its holder has not seen the end of. -/
def unsubscribe (place : Nat) (session : Session α) : Session α × Option SocketRequest :=
  match session.subscriptions[place]? with
  | none => (session, none)
  | some subscription =>
    if subscription.isClosed then (session, none)
    else (session.update place ({ · with isClosed := true })).cancel subscription.requestId

/-- Let go of a subscription without ending it. -/
def release (place : Nat) (session : Session α) : Session α :=
  session.update place ({ · with isHeld := false })

/-- End one subscription for a reason, and tell the server if it knows of it. -/
def close (requestId : UInt64) (reason : SubscriptionError) (session : Session α) :
    Session α × Option SocketRequest :=
  match session.remove requestId with
  | none => (session, none)
  | some (session, place, subscription) =>
    let session := session.update place (·.fail reason)
    match subscription.serverId with
    | some serverId =>
      let (session, request) := session.unsubscribeRequest serverId subscription.unsubscribeMethod
      (session, some request)
    | none => (session, none)

/-- End all subscriptions for one reason. -/
def failAll (reason : SubscriptionError) (session : Session α) : Session α :=
  let places := session.byRequest.entries.map Prod.snd
  let failed := places.foldl (fun session place => session.update place (·.fail reason)) session
  { failed with byRequest := .empty, bySubscription := .empty, cancelled := .empty }

/-! ### What the server says -/

/-- An answer to a request. Only a number acknowledges a subscription. -/
def acknowledge (requestId : UInt64) (result : Json) (session : Session α) :
    Session α × Option SocketRequest :=
  match result.asWord? with
  | none => (session, none)
  | some serverId =>
    match session.live? requestId with
    | some (place, subscription) =>
      if subscription.serverId.isSome then (session, none)
      else
        let known := session.update place fun subscription =>
          { subscription with serverId := some serverId }
        ({ known with bySubscription := known.bySubscription.insert serverId place }, none)
    | none =>
      match session.cancelled.find? requestId with
      | some method =>
        let (session, request) :=
          { session with cancelled := session.cancelled.erase requestId }.unsubscribeRequest
            serverId method
        (session, some request)
      | none => (session, none)

/-- A result for a subscription. One that cannot be delivered ends the subscription. -/
def notify (serverId : UInt64) (result : Json) (session : Session α) :
    Session α × Option SocketRequest :=
  match session.bySubscription.find? serverId with
  | none => (session, none)
  | some place =>
    match session.subscriptions[place]? with
    | none => (session, none)
    | some subscription =>
      match subscription.deliver result with
      | .ok delivered => (session.update place fun _ => delivered, none)
      | .error reason => session.close subscription.requestId reason

/-- A failure of a request, if it is known which. -/
def reject (requestId : Option UInt64) (reason : SubscriptionError) (session : Session α) :
    Session α × Option SocketRequest :=
  match requestId with
  | none => (session, none)
  | some id =>
    if session.byRequest.contains id then session.close id reason
    else ({ session with cancelled := session.cancelled.erase id }, none)

/-- A frame from the server, and the request that it leads to. Frames that cannot be
read are passed over. -/
def dispatch (bytes : List UInt8) (session : Session α) : Session α × Option SocketRequest :=
  match Frame.parse bytes with
  | .ok (.response id result) => session.acknowledge id result
  | .ok (.notification serverId result) => session.notify serverId result
  | .ok (.failure id code message) => session.reject id (.rpc code message)
  | .ok .other | .error _ => (session, none)

end Session

end LedgerClient
