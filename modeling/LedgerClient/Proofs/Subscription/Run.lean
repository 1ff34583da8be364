import LedgerClient.Subscription.Client

/-! # Runs of a session

A session is changed by its holders, by the frames that come and by the end of the connection, in
any order. Here each change is one operation, done as a whole. A run makes operations one after
the other; its history keeps each of them with the session that it finds. What a client does to
its session is a run (`LedgerClient.Client.exists_operations_of_start`).

The tables change under a lock, and some frames take it twice: what is looked up first is dealt
with afterwards. So a run of whole operations is one in which nothing comes in between. What does
is told by the strides of `LedgerClient.FrameReader`, of which the run lemmas are proved again
where a frame may be interrupted.
-/

namespace LedgerClient

variable {α : Type}

namespace Session

/-- What happens to a session. -/
inductive Operation (α : Type) where
  /-- Ask for a subscription. -/
  | register (topic : Topic α)
  /-- Take a subscription back, as the request for it could not be written. -/
  | remove (requestId : UInt64)
  /-- Take something out of a subscription, without waiting if cancelled. -/
  | receive (place : Nat) (isCancelled : Bool)
  | unsubscribe (place : Nat)
  /-- Let go of a subscription without ending it. -/
  | release (place : Nat)
  /-- A frame comes from the server. -/
  | dispatch (bytes : List UInt8)
  /-- End one subscription for a reason. -/
  | close (requestId : UInt64) (reason : SubscriptionError)
  /-- End all subscriptions for one reason. -/
  | failAll (reason : SubscriptionError)

/-- What an operation makes of a session with some settings, and the request that it
leads to. -/
def perform (settings : ClientSettings) (session : Session α) :
    Operation α → Session α × Option SocketRequest
  | .register topic =>
    match session.register topic settings.resultCapacity.toNat settings.errorCapacity.toNat with
    | some (session, _, request) => (session, some request)
    | none => (session, none)
  | .remove requestId => ((session.remove requestId).elim session Prod.fst, none)
  | .receive place isCancelled => ((session.receive place isCancelled).2, none)
  | .unsubscribe place => session.unsubscribe place
  | .release place => (session.release place, none)
  | .dispatch bytes => session.dispatch bytes
  | .close requestId reason => session.close requestId reason
  | .failAll reason => (session.failAll reason, none)

/-- A session after some operations. -/
def run (settings : ClientSettings) (session : Session α) (operations : List (Operation α)) :
    Session α :=
  operations.foldl (fun session operation => (session.perform settings operation).1) session

/-- An operation and the session that it finds. -/
structure Moment (α : Type) where
  session : Session α
  operation : Operation α

/-- What a moment leaves behind. -/
def Moment.after (settings : ClientSettings) (moment : Moment α) : Session α :=
  (moment.session.perform settings moment.operation).1

/-- The moments of a run, the first one first. -/
def history (settings : ClientSettings) (session : Session α) :
    List (Operation α) → List (Moment α)
  | [] => []
  | operation :: later =>
    ⟨session, operation⟩ :: history settings (session.perform settings operation).1 later

variable {settings : ClientSettings} {session : Session α}

/-- Nothing happens without operations. -/
@[simp] theorem run_nil : session.run settings [] = session := rfl

/-- The first operation happens first. -/
@[simp] theorem run_cons (operation : Operation α) (later : List (Operation α)) :
    session.run settings (operation :: later) =
      (session.perform settings operation).1.run settings later := rfl

/-- Two runs, one after another, are one run. -/
theorem run_append (first second : List (Operation α)) :
    session.run settings (first ++ second) = (session.run settings first).run settings second :=
  List.foldl_append

private theorem history_append (first second : List (Operation α)) :
    session.history settings (first ++ second) =
      session.history settings first ++ (session.run settings first).history settings second := by
  induction first generalizing session with
  | nil => rfl
  | cons operation later ih => exact congrArg (List.cons _) ih

/-- The last operation happens last. -/
theorem run_concat (operations : List (Operation α)) (last : Operation α) :
    session.run settings (operations ++ [last]) =
      Moment.after settings ⟨session.run settings operations, last⟩ :=
  run_append operations [last]

/-- The moment of the last operation comes last. -/
theorem history_concat (operations : List (Operation α)) (last : Operation α) :
    session.history settings (operations ++ [last]) =
      session.history settings operations ++ [⟨session.run settings operations, last⟩] :=
  history_append operations [last]

/-- A moment of a run is where the operations before it have led. -/
theorem exists_of_mem_history {operations : List (Operation α)} {moment : Moment α}
    (member : moment ∈ session.history settings operations) :
    ∃ before later, operations = before ++ moment.operation :: later ∧
      moment.session = session.run settings before := by
  induction operations generalizing session with
  | nil => cases member
  | cons operation later ih =>
      rcases List.mem_cons.mp member with rfl | behind
      · exact ⟨[], later, rfl, rfl⟩
      · obtain ⟨before, rest, rfl, same⟩ := ih behind
        exact ⟨operation :: before, rest, rfl, same⟩

/-- **What every operation keeps, every run keeps.** -/
theorem run_induction {kept : Session α → Prop} (start : kept session)
    (step : ∀ session operation, kept session → kept (session.perform settings operation).1)
    (operations : List (Operation α)) : kept (session.run settings operations) := by
  induction operations generalizing session with
  | nil => exact start
  | cons operation later ih => exact ih (step session operation start)

end Session

namespace Client

/-- A client whose subscriptions have the queues that some settings ask for. -/
def Follows (settings : ClientSettings) (client : Client α) : Prop :=
  client.resultCapacity = settings.resultCapacity.toNat ∧
    client.errorCapacity = settings.errorCapacity.toNat

variable {settings : ClientSettings} {client : Client α}

/-- What an event does to the session of a client, one thing after the other. -/
inductive Does (client : Client α) : ClientEvent α → List (Session.Operation α) → Prop
  | nothing (event) : Does client event []
  | registers (topic) : Does client (.subscribe topic) [.register topic]
  /-- A request that cannot be written is taken back. -/
  | takesBack (topic requestId) :
      Does client (.subscribe topic) [.register topic, .remove requestId]
  | receives (place isCancelled) :
      Does client (.receive place isCancelled) [.receive place isCancelled]
  | unsubscribes (place) : Does client (.unsubscribe place) [.unsubscribe place]
  | releases (place) : Does client (.release place) [.release place]
  | dispatches (bytes) (reading : client.isReading = true) :
      Does client (.frame bytes) [.dispatch bytes]
  | closes : Does client .close [.failAll .closed]
  | drops : Does client .drop [.failAll .closed]
  | hangsUp (reading : client.isReading = true) :
      Does client .closed [.failAll .connectionClosed]
  | breaks (reason) (reading : client.isReading = true) :
      Does client (.broken reason) [.failAll (.transport reason)]
  | garbles (reason) (reading : client.isReading = true) :
      Does client (.unreadable reason) [.failAll (.transport reason)]
  /-- The wait for a pong is over. -/
  | expires (span) (reading : client.isReading = true)
      (expired : (client.clock.advance span).isExpired = true) :
      Does client (.elapsed span) [.failAll (.pongTimeout client.clock.wait)]

/-- **An event does nothing else** to the session of a client. -/
theorem exists_operations_react (follows : client.Follows settings) (event : ClientEvent α) :
    (client.react event).client.Follows settings ∧ ∃ operations, client.Does event operations ∧
      (client.react event).client.session = client.session.run settings operations := by
  cases event with
  | subscribe topic =>
      obtain ⟨results, errors⟩ := follows
      simp only [react, subscribe, results, errors]
      cases registered : client.session.register topic settings.resultCapacity.toNat
          settings.errorCapacity.toNat with
      | none => exact ⟨⟨results, errors⟩, [], .nothing _, rfl⟩
      | some result =>
          obtain ⟨session, place, request⟩ := result
          have asked : (client.session.perform settings (.register topic)).1 = session := by
            simp only [Session.perform, registered]
          cases client.writeFault with
          | none =>
              refine ⟨⟨rfl, rfl⟩, _, .registers topic, ?_⟩
              rw [Session.run_cons, asked]
              rfl
          | some reason =>
              refine ⟨⟨rfl, rfl⟩, _, .takesBack topic request.id, ?_⟩
              rw [Session.run_cons, asked]
              rfl
  | receive place isCancelled => exact ⟨follows, _, .receives place isCancelled, rfl⟩
  | unsubscribe place =>
      simp only [react, unsubscribe]
      split
      · exact ⟨follows, [], .nothing _, rfl⟩
      · exact ⟨follows, _, .unsubscribes place, rfl⟩
  | release place => exact ⟨follows, _, .releases place, rfl⟩
  | close => exact ⟨follows, _, .closes, rfl⟩
  | drop => exact ⟨follows, _, .drops, rfl⟩
  | frame bytes =>
      simp only [react]
      split
      case isTrue reading => exact ⟨follows, _, .dispatches bytes reading, rfl⟩
      case isFalse => exact ⟨follows, [], .nothing _, rfl⟩
  | pong =>
      simp only [react]
      split
      · exact ⟨follows, [], .nothing _, rfl⟩
      · exact ⟨follows, [], .nothing _, rfl⟩
  | closed =>
      simp only [react]
      split
      case isTrue reading => exact ⟨follows, _, .hangsUp reading, rfl⟩
      case isFalse => exact ⟨follows, [], .nothing _, rfl⟩
  | broken reason =>
      simp only [react]
      split
      case isTrue reading => exact ⟨follows, _, .breaks reason reading, rfl⟩
      case isFalse => exact ⟨follows, [], .nothing _, rfl⟩
  | unreadable reason =>
      simp only [react]
      split
      case isTrue reading => exact ⟨follows, _, .garbles reason reading, rfl⟩
      case isFalse => exact ⟨follows, [], .nothing _, rfl⟩
  | elapsed span =>
      simp only [react, elapse]
      split
      case isTrue out =>
        obtain ⟨reading, expired⟩ := Bool.and_eq_true_iff.mp out
        exact ⟨follows, _, .expires span reading expired, rfl⟩
      case isFalse => exact ⟨follows, [], .nothing _, rfl⟩

/-- A client goes on asking for queues as its settings say, and what it does to its session is a
run. -/
theorem exists_operations (follows : client.Follows settings) (events : List (ClientEvent α)) :
    (client.run events).Follows settings ∧ ∃ operations,
      (client.run events).session = client.session.run settings operations := by
  induction events generalizing client with
  | nil => exact ⟨follows, [], rfl⟩
  | cons event later ih =>
      obtain ⟨kept, first, _, reached⟩ := exists_operations_react follows event
      obtain ⟨still, rest, same⟩ := ih kept
      refine ⟨still, first ++ rest, ?_⟩
      rw [Session.run_append, ← reached]
      exact same

/-- **What a client does to its session is a run** of a session that begins without
subscriptions. -/
theorem exists_operations_of_start {draws : Nat → UInt64}
    (started : start? settings draws = some client) (events : List (ClientEvent α)) :
    (client.run events).Follows settings ∧ ∃ operations, (client.run events).session =
      (Session.start ⟨settings.shortIds, draws, 0⟩).run settings operations := by
  obtain ⟨clock, _, rfl⟩ := Option.map_eq_some_iff.mp started
  exact exists_operations ⟨rfl, rfl⟩ events

end Client

end LedgerClient
