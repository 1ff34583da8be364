import LedgerClient.Net.Url
import LedgerClient.Subscription.Keepalive
import LedgerClient.Subscription.Session

/-! # Clients

A client is a session on a connection. It reads until the connection fails, is
closed or falls silent; then every subscription is told, and nothing is read any
more. Whether frames can still be written is another matter. A client does not
connect again.
-/

namespace LedgerClient

/-- What is written to the connection. -/
inductive Outgoing where
  | request (request : SocketRequest)
  | ping
  | close

/-- A session on a connection. -/
structure Client (α : Type) where
  session : Session α
  clock : Keepalive
  resultCapacity : Nat
  errorCapacity : Nat
  /-- Whether frames are read. -/
  isReading : Bool
  /-- Whether pings are sent. -/
  isPinging : Bool
  /-- Why nothing can be written any more, if so. -/
  writeFault : Option SubscriptionError

/-- The address that settings lead to, once they have been checked. -/
def ClientSettings.server (settings : ClientSettings) : Except SubscriptionError Url :=
  match settings.validate with
  | .error fault => .error (.invalidConfig fault.message)
  | .ok () =>
    match Url.parse settings.url with
    | .error fault => .error (.invalidUrl fault.message)
    | .ok url =>
      if ["ws", "wss"].contains url.scheme then .ok url
      else
        let scheme := url.scheme
        .error (.invalidUrl s!"unsupported scheme '{scheme}'")

/-- What happens to a client: what its holder does and what the connection brings. -/
inductive ClientEvent (α : Type) where
  | subscribe (topic : Topic α)
  /-- Take something out of a subscription, without waiting if cancelled. -/
  | receive (place : Nat) (isCancelled : Bool)
  | unsubscribe (place : Nat)
  /-- Let go of a subscription without ending it. -/
  | release (place : Nat)
  /-- End all subscriptions and close the connection. -/
  | close
  /-- Let go of the client. -/
  | drop
  | frame (bytes : List UInt8)
  | pong
  /-- The server closes the connection. -/
  | closed
  /-- The connection breaks. -/
  | broken (reason : String)
  /-- Something comes that cannot be read. -/
  | unreadable (reason : String)
  | elapsed (span : Duration)

/-- What an event comes to for the holder of the client. -/
inductive ClientAnswer (α : Type) where
  | done
  | subscribed (place : Nat)
  /-- There is no answer yet. -/
  | pending
  | value (value : α)
  | failed (reason : SubscriptionError)

/-- What an event leads to. -/
structure Reaction (α : Type) where
  answer : ClientAnswer α
  written : List Outgoing
  client : Client α

namespace Client

variable {α : Type}

/-- A client on a fresh connection, if its settings give a time between pings. -/
def start? (settings : ClientSettings) (draws : Nat → UInt64) : Option (Client α) :=
  (Keepalive.ofSettings? settings).map fun clock =>
    { session := .start ⟨settings.shortIds, draws, 0⟩
      clock
      resultCapacity := settings.resultCapacity.toNat
      errorCapacity := settings.errorCapacity.toNat
      isReading := true
      isPinging := true
      writeFault := none }

/-- Dial a server and start a client. Without a time between pings there is a
connection, but no client. -/
def connect (dial : Url → Except String Unit) (settings : ClientSettings) (draws : Nat → UInt64) :
    Except SubscriptionError (Option (Client α)) :=
  match settings.server with
  | .error reason => .error reason
  | .ok url =>
    match dial url with
    | .error reason => .error (.connect reason)
    | .ok () => .ok (start? settings draws)

/-- What is written of some frames, if anything can be. -/
def write (client : Client α) (frames : List Outgoing) : List Outgoing :=
  if client.writeFault.isNone then frames else []

/-- A client with another session, and the request that led to. Nobody waits for
it to be written. -/
def proceed (client : Client α) (answer : ClientAnswer α)
    (next : Session α × Option SocketRequest) : Reaction α :=
  ⟨answer, client.write (next.2.toList.map .request), { client with session := next.1 }⟩

/-- Nothing is read any more, for a reason that every subscription is told. -/
def stopReading (reason : SubscriptionError) (client : Client α) : Client α :=
  { client with session := client.session.failAll reason, isReading := false }

/-- Ask for a subscription. If the request cannot be written there is none. -/
def subscribe (topic : Topic α) (client : Client α) : Reaction α :=
  match client.session.register topic client.resultCapacity client.errorCapacity with
  | none => ⟨.pending, [], client⟩
  | some (session, place, request) =>
    match client.writeFault with
    | none => ⟨.subscribed place, [.request request], { client with session }⟩
    | some reason =>
      let session := (session.remove request.id).elim session Prod.fst
      ⟨.failed reason, [], { client with session }⟩

/-- Take something out of a subscription. -/
def receive (place : Nat) (isCancelled : Bool) (client : Client α) : Reaction α :=
  let (receipt, session) := client.session.receive place isCancelled
  let answer := match receipt with
    | .pending => .pending
    | .value value => .value value
    | .failed reason => .failed reason
  client.proceed answer (session, none)

/-- End a subscription that its holder has not seen the end of. -/
def unsubscribe (place : Nat) (client : Client α) : Reaction α :=
  match client.session.subscriptions[place]? with
  | none => ⟨.failed .closed, [], client⟩
  | some _ =>
    let next := client.session.unsubscribe place
    let answer := match next.2, client.writeFault with
      | some _, some reason => .failed reason
      | _, _ => .done
    client.proceed answer next

/-- What has been said about the connection after time has gone by: pings, and that
the peer is dead. -/
def elapse (span : Duration) (client : Client α) : Reaction α :=
  let pings := if client.isPinging then List.replicate (client.clock.pingsDue span) .ping else []
  let later := { client with clock := client.clock.advance span }
  let after :=
    if client.isReading && later.clock.isExpired then
      later.stopReading (.pongTimeout client.clock.wait)
    else later
  ⟨.done, client.write pings, after⟩

/-- What an event leads to. -/
def react (client : Client α) : ClientEvent α → Reaction α
  | .subscribe topic => client.subscribe topic
  | .receive place isCancelled => client.receive place isCancelled
  | .unsubscribe place => client.unsubscribe place
  | .release place =>
    client.proceed .done (client.session.release place, none)
  | .close =>
    let stopped := { client.stopReading .closed with isPinging := false }
    ⟨.done, client.write [.close], { stopped with writeFault := some (.transport "closed") }⟩
  | .drop => ⟨.done, [], { client.stopReading .closed with isPinging := false }⟩
  | .frame bytes =>
    if client.isReading then client.proceed .done (client.session.dispatch bytes)
    else ⟨.done, [], client⟩
  | .pong =>
    if client.isReading then ⟨.done, [], { client with clock := client.clock.pong }⟩
    else ⟨.done, [], client⟩
  | .closed =>
    if client.isReading then
      let stopped := client.stopReading .connectionClosed
      ⟨.done, [], { stopped with writeFault := some (.transport "closed by the server") }⟩
    else ⟨.done, [], client⟩
  | .broken reason =>
    let stopped := if client.isReading then client.stopReading (.transport reason) else client
    ⟨.done, [], { stopped with writeFault := some (.transport reason) }⟩
  | .unreadable reason =>
    ⟨.done, [], if client.isReading then client.stopReading (.transport reason) else client⟩
  | .elapsed span => client.elapse span

/-- A client after some events. -/
def run (client : Client α) (events : List (ClientEvent α)) : Client α :=
  events.foldl (fun client event => (client.react event).client) client

/-- A client in diagnostics: how many subscriptions are live, and how many of them
the server has acknowledged. -/
def diagnostic (client : Client α) : Diagnostic :=
  let active : Diagnostic := ⟨"ActiveSubscriptions",
    [⟨"by_request", toString client.session.byRequest.size⟩,
      ⟨"by_subscription", toString client.session.bySubscription.size⟩]⟩
  ⟨"PubsubClient", [⟨"active", active.render⟩]⟩

end Client

end LedgerClient
