import LedgerClient.Proofs.Subscription.Failure

/-! # After the end of a connection

When nothing is read any more, all subscriptions have been told why, and the tables are empty. If
nothing can be written either, this stays so, and whoever asks for a subscription is turned away
(`LedgerClient.Client.Over.run`). A peer that falls silent or says what cannot be read does not
keep the client from writing, though. A subscription that is asked for then is live, and waits for
results that nobody reads (`LedgerClient.Client.turnsAway_iff`).
-/

namespace LedgerClient

variable {α : Type}

namespace Session

variable {session : Session α} {topic : Topic α} {results errors : Nat}

/-- No subscription is live, and none is listed. -/
def IsEmpty (session : Session α) : Prop :=
  session.byRequest = .empty ∧ session.bySubscription = .empty

private theorem known_opening : (session.opening topic results errors).byRequest.find?
    session.ids.draw.1 = some session.subscriptions.length :=
  find?_byRequest_add.trans (if_pos rfl)

private theorem found_opening :
    (session.opening topic results errors).subscriptions[session.subscriptions.length]? =
      some (.ofTopic topic session.ids.draw.1 results errors) :=
  List.getElem?_concat_length

namespace IsEmpty

variable (empty : session.IsEmpty)

include empty

private theorem not_live (place : Nat) : ¬ session.Live place := by
  intro live
  obtain ⟨requestId, known⟩ := live
  rw [empty.1] at known
  cases known

private theorem remove_eq (requestId : UInt64) : session.remove requestId = none := by
  simp only [remove, live?, empty.1]
  rfl

/-- Giving up a subscription leaves empty tables empty. -/
theorem unsubscribe (place : Nat) : (session.unsubscribe place).1.IsEmpty := by
  unfold Session.unsubscribe
  cases session.subscriptions[place]? with
  | none => exact empty
  | some subscription =>
      have kept : (session.update place ({ · with isClosed := true })).IsEmpty := empty
      by_cases seen : subscription.isClosed = true
      · simp only [seen, if_true]
        exact empty
      · simp only [seen, Bool.false_eq_true, if_false, cancel, kept.remove_eq]
        exact kept

/-- Taking something out of a subscription leaves empty tables empty. -/
theorem receive (place : Nat) (isCancelled : Bool) :
    (session.receive place isCancelled).2.IsEmpty := by
  unfold Session.receive
  cases session.subscriptions[place]? with
  | none => exact empty
  | some subscription => exact empty

/-- In empty tables a request is made under the next id. -/
theorem register_eq : session.register topic results errors =
    some (session.opening topic results errors, session.subscriptions.length,
      .ofSettings topic.method topic.params topic.settings session.ids.draw.1) := by
  refine register_of_free ?_
  rw [empty.1]
  rfl

/-- Taking back what was asked for leaves the tables empty. -/
theorem exists_remove_opening : ∃ result,
    (session.opening topic results errors).remove session.ids.draw.1 = some result ∧
      result.1.IsEmpty := by
  refine ⟨_, remove_eq_some_iff.mpr ⟨known_opening, found_opening, rfl⟩, ?_, empty.2⟩
  have nothing : session.byRequest = .empty := empty.1
  simp [without, opening, add, remember, nothing, IdTable.insert, IdTable.erase, IdTable.empty,
    Subscription.ofTopic]

end IsEmpty

end Session

namespace Client

variable {client : Client α} {event : ClientEvent α}

/-! ### Nothing is read or written -/

/-- Nothing is read or written any more, and the tables are empty. -/
structure Over (client : Client α) : Prop where
  unread : client.isReading = false
  unwritten : client.writeFault ≠ none
  empty : client.session.IsEmpty

namespace Over

variable (isOver : client.Over)

include isOver

/-- Whoever asks now is refused. -/
theorem subscribe (topic : Topic α) : ∃ reason,
    (client.subscribe topic).answer = .failed reason ∧ (client.subscribe topic).client.Over := by
  obtain ⟨reason, fault⟩ := Option.ne_none_iff_exists'.mp isOver.unwritten
  obtain ⟨result, removed, empty⟩ : ∃ result,
      (client.session.opening topic client.resultCapacity client.errorCapacity).remove
        client.session.ids.draw.1 = some result ∧ result.1.IsEmpty :=
    isOver.empty.exists_remove_opening
  have asked : client.subscribe topic =
      ⟨.failed reason, [], { client with session := result.1 }⟩ := by
    simp only [Client.subscribe, isOver.empty.register_eq, fault, SocketRequest.ofSettings, removed,
      Option.elim]
  rw [asked]
  exact ⟨reason, rfl, isOver.unread, isOver.unwritten, empty⟩

/-- What is over stays over, whatever happens. -/
theorem react (event : ClientEvent α) : (client.react event).client.Over := by
  have unread := isOver.unread
  cases event with
  | subscribe topic =>
      obtain ⟨_, _, still⟩ := isOver.subscribe topic
      exact still
  | receive place isCancelled =>
      exact ⟨unread, isOver.unwritten, isOver.empty.receive place isCancelled⟩
  | unsubscribe place =>
      simp only [Client.react, Client.unsubscribe]
      split
      · exact isOver
      · exact ⟨unread, isOver.unwritten, isOver.empty.unsubscribe place⟩
  | release place => exact ⟨unread, isOver.unwritten, isOver.empty⟩
  | close => exact ⟨rfl, Option.some_ne_none _, rfl, rfl⟩
  | drop => exact ⟨rfl, isOver.unwritten, rfl, rfl⟩
  | frame | pong | closed | unreadable =>
      simp only [Client.react, unread, Bool.false_eq_true, if_false]
      exact isOver
  | broken reason =>
      simp only [Client.react, unread, Bool.false_eq_true, if_false]
      exact ⟨rfl, Option.some_ne_none _, isOver.empty⟩
  | elapsed span =>
      simp only [Client.react, elapse, unread, Bool.false_and, Bool.false_eq_true, if_false]
      exact ⟨rfl, isOver.unwritten, isOver.empty⟩

/-- **It stays so**, whatever happens. -/
theorem run (events : List (ClientEvent α)) : (client.run events).Over := by
  induction events generalizing client with
  | nil => exact isOver
  | cons event later ih => exact ih (isOver.react event)

end Over

/-! ### The end of reading -/

/-- Reading ends: the connection is closed or breaks, something cannot be read, or the peer has
been silent too long. -/
inductive ReadingEnds (client : Client α) : ClientEvent α → Prop
  | closed (reading : client.isReading = true) : ReadingEnds client .closed
  | broken {reason} (reading : client.isReading = true) : ReadingEnds client (.broken reason)
  | unreadable {reason} (reading : client.isReading = true) :
      ReadingEnds client (.unreadable reason)
  | silent {span} (reading : client.isReading = true)
      (expired : (client.clock.advance span).isExpired = true) :
      ReadingEnds client (.elapsed span)

/-- Every live subscription has an error waiting for it, whatever happens. -/
def StaysTold (client : Client α) : Prop :=
  ∀ later place subscription,
    (client.run later).session.subscriptions[place]? = some subscription →
    (client.run later).session.Live place → subscription.errors.items ≠ []

/-- Whoever asks for a subscription, whatever has happened before, gets none and leaves the
tables empty, or hears of an error next. -/
def TurnsAway (client : Client α) : Prop :=
  ∀ later (topic : Topic α),
    let asked := (client.run later).subscribe topic
    (∃ reason, asked.answer = .failed reason ∧ asked.client.session.IsEmpty) ∨
      ∃ place reason, asked.answer = .subscribed place ∧
        (asked.client.receive place false).answer = .failed reason

private theorem Over.staysTold (isOver : client.Over) : client.StaysTold := by
  intro later place subscription _ live
  exact ((isOver.run later).empty.not_live place live).elim

private theorem Over.turnsAway (isOver : client.Over) : client.TurnsAway := by
  intro later topic
  obtain ⟨reason, refused, still⟩ := (isOver.run later).subscribe topic
  exact .inl ⟨reason, refused, still.empty⟩

/-- As long as something can be written, whoever asks gets a subscription that waits. -/
theorem subscribe_of_writable (empty : client.session.IsEmpty)
    (writable : client.writeFault = none) (topic : Topic α) :
    let asked := client.subscribe topic
    ∃ place subscription, asked.answer = .subscribed place ∧
      asked.client.session.subscriptions[place]? = some subscription ∧
      asked.client.session.Live place ∧ subscription.errors.items = [] ∧
      (asked.client.receive place false).answer = .pending := by
  have asked : client.subscribe topic =
      ⟨.subscribed client.session.subscriptions.length,
        [.request (.ofSettings topic.method topic.params topic.settings
          client.session.ids.draw.1)],
        { client with session :=
            client.session.opening topic client.resultCapacity client.errorCapacity }⟩ := by
    simp only [subscribe, empty.register_eq, writable]
  rw [asked]
  refine ⟨_, _, rfl, Session.found_opening, ⟨_, Session.known_opening⟩, rfl, ?_⟩
  simp only [receive, Session.receive, Session.found_opening]
  rfl

section Writable

/-- A topic of which nothing can be read. -/
def mutedTopic : Topic α := ⟨"", "", [], [], fun _ => .error .closed⟩

variable (empty : client.session.IsEmpty) (writable : client.writeFault = none)

include empty writable

private theorem not_staysTold_of_writable : ¬ client.StaysTold := by
  intro told
  obtain ⟨place, subscription, _, found, live, untold, _⟩ :=
    subscribe_of_writable empty writable mutedTopic
  exact told [.subscribe mutedTopic] place subscription found live untold

private theorem not_turnsAway_of_writable : ¬ client.TurnsAway := by
  intro refuses
  obtain ⟨place, _, subscribed, _, _, _, pending⟩ :=
    subscribe_of_writable empty writable mutedTopic
  rcases refuses [] mutedTopic with
    ⟨reason, refused, _⟩ | ⟨other, reason, alsoSubscribed, failed⟩
  · cases subscribed.symm.trans refused
  · cases subscribed.symm.trans alsoSubscribed
    cases pending.symm.trans failed

end Writable

/-- Asking for a subscription changes the session alone. -/
theorem exists_subscribe_eq (client : Client α) (topic : Topic α) :
    ∃ session, (client.subscribe topic).client = { client with session } := by
  unfold subscribe
  split
  · exact ⟨_, rfl⟩
  · split
    · exact ⟨_, rfl⟩
    · exact ⟨_, rfl⟩

/-- Giving one up changes the session alone. -/
theorem exists_unsubscribe_eq (client : Client α) (place : Nat) :
    ∃ session, (client.unsubscribe place).client = { client with session } := by
  unfold unsubscribe
  split
  · exact ⟨_, rfl⟩
  · exact ⟨_, rfl⟩

/-- What still reads has read before, and nothing has disturbed its writing. -/
theorem reading_of_react (event : ClientEvent α)
    (reads : (client.react event).client.isReading = true) :
    client.isReading = true ∧ (client.react event).client.writeFault = client.writeFault := by
  cases event with
  | subscribe topic =>
      obtain ⟨session, same⟩ := exists_subscribe_eq client topic
      rw [react, same] at reads ⊢
      exact ⟨reads, rfl⟩
  | unsubscribe place =>
      obtain ⟨session, same⟩ := exists_unsubscribe_eq client place
      rw [react, same] at reads ⊢
      exact ⟨reads, rfl⟩
  | receive | release => exact ⟨reads, rfl⟩
  | close | drop => cases reads
  | frame | pong =>
      simp only [react] at reads ⊢
      split
      case isTrue reading => exact ⟨reading, rfl⟩
      case isFalse idle =>
        rw [if_neg idle] at reads
        exact (idle reads).elim
  | closed | broken | unreadable =>
      simp only [react] at reads
      split at reads
      case isTrue => cases reads
      case isFalse idle => exact (idle reads).elim
  | elapsed span =>
      simp only [react, elapse] at reads ⊢
      split
      case isTrue silent =>
        rw [if_pos silent] at reads
        cases reads
      case isFalse heard =>
        rw [if_neg heard] at reads
        exact ⟨reads, rfl⟩

/-- A client that reads can write. -/
theorem writable_of_reading (writable : client.isReading = true → client.writeFault = none)
    (events : List (ClientEvent α)) (reads : (client.run events).isReading = true) :
    (client.run events).writeFault = none := by
  induction events generalizing client with
  | nil => exact writable reads
  | cons event later ih =>
      refine ih (fun still => ?_) reads
      obtain ⟨before, same⟩ := reading_of_react event still
      rw [same, writable before]

namespace ReadingEnds

variable (ends : client.ReadingEnds event)

include ends

private theorem reading : client.isReading = true := by
  cases ends with
  | closed reading | broken reading | unreadable reading | silent reading => exact reading

/-- Whatever ends the reading empties the tables. -/
theorem unread_and_empty : (client.react event).client.isReading = false ∧
    (client.react event).client.session.IsEmpty := by
  cases ends with
  | closed reading | broken reading | unreadable reading =>
      simp only [react, reading, if_true]
      exact ⟨rfl, rfl, rfl⟩
  | silent reading expired =>
      simp only [react, elapse, reading, expired, Bool.and_self, if_true]
      exact ⟨rfl, rfl, rfl⟩

/-- A connection that is closed or broken takes nothing more; else it takes what it took. -/
theorem unwritten_iff (writable : client.writeFault = none) :
    (client.react event).client.writeFault ≠ none ↔
      event = .closed ∨ ∃ reason, event = .broken reason := by
  cases ends with
  | closed reading =>
      refine iff_of_true ?_ (.inl rfl)
      simp only [react, reading, if_true]
      exact Option.some_ne_none _
  | broken reading => exact iff_of_true (Option.some_ne_none _) (.inr ⟨_, rfl⟩)
  | unreadable reading =>
      refine iff_of_false (not_not.mpr ?_) (by simp)
      simp only [react, reading, if_true]
      exact writable
  | silent reading expired =>
      refine iff_of_false (not_not.mpr ?_) (by simp)
      simp only [react, elapse, reading, expired, Bool.and_self, if_true]
      exact writable

end ReadingEnds

/-- **Whoever asks for a subscription after the end of reading is turned away**, and nobody is
left waiting, exactly when nothing can be written any more: the connection was closed or broke. -/
theorem turnsAway_iff {settings : ClientSettings} {draws : Nat → UInt64} {client : Client α}
    {events : List (ClientEvent α)} {event : ClientEvent α}
    (started : start? settings draws = some client)
    (ends : (client.run events).ReadingEnds event) :
    let ended := ((client.run events).react event).client
    (ended.StaysTold ↔ ended.writeFault ≠ none) ∧ (ended.TurnsAway ↔ ended.writeFault ≠ none) ∧
      (ended.writeFault ≠ none ↔ event = .closed ∨ ∃ reason, event = .broken reason) := by
  obtain ⟨unread, empty⟩ := ends.unread_and_empty
  have fresh : client.writeFault = none := by
    obtain ⟨clock, _, rfl⟩ := Option.map_eq_some_iff.mp started
    rfl
  have unwritten_iff :=
    ends.unwritten_iff (writable_of_reading (fun _ => fresh) events ends.reading)
  by_cases writable : ((client.run events).react event).client.writeFault = none
  · exact ⟨iff_of_false (not_staysTold_of_writable empty writable) (not_not.mpr writable),
      iff_of_false (not_turnsAway_of_writable empty writable) (not_not.mpr writable),
      unwritten_iff⟩
  · have isOver : ((client.run events).react event).client.Over := ⟨unread, writable, empty⟩
    exact ⟨iff_of_true isOver.staysTold writable, iff_of_true isOver.turnsAway writable,
      unwritten_iff⟩

/-- A client with little room, which waits a minute for a pong. -/
def tightClient : Client UInt64 where
  session := .start Session.countingIds
  clock := .start (.ofSeconds 60) (.ofSeconds 54)
  resultCapacity := 2
  errorCapacity := 1
  isReading := true
  isPinging := true
  writeFault := none

private theorem start?_tightClient :
    start? Session.tightSettings Session.countingIds.draws = some tightClient := rfl

/-- The other side closes the connection. -/
theorem turnsAway_closed_iff :
    start? Session.tightSettings Session.countingIds.draws = some tightClient ∧
      (tightClient.run [.subscribe Session.slots]).ReadingEnds .closed ∧
      let ended := ((tightClient.run [.subscribe Session.slots]).react .closed).client
      (ended.StaysTold ↔ ended.writeFault ≠ none) ∧ (ended.TurnsAway ↔ ended.writeFault ≠ none) ∧
        (ended.writeFault ≠ none ↔
          (.closed : ClientEvent UInt64) = .closed ∨
            ∃ reason, (.closed : ClientEvent UInt64) = .broken reason) := by
  have empty : tightClient.session.IsEmpty := ⟨rfl, rfl⟩
  have reading : (tightClient.run [.subscribe Session.slots]).isReading = true := by
    simp only [run, List.foldl_cons, List.foldl_nil, react, subscribe, empty.register_eq]
    rfl
  have ends : (tightClient.run [.subscribe Session.slots]).ReadingEnds .closed := .closed reading
  exact ⟨start?_tightClient, ends, turnsAway_iff start?_tightClient ends⟩

/-- After a minute of silence somebody who asks for a subscription gets one, and waits. -/
theorem not_turnsAway_silent :
    let ended := (tightClient.react (.elapsed (.ofSeconds 60))).client
    tightClient.ReadingEnds (.elapsed (.ofSeconds 60)) ∧ ¬ ended.StaysTold ∧
      ¬ ended.TurnsAway := by
  have ends : tightClient.ReadingEnds (.elapsed (.ofSeconds 60)) := .silent rfl (by decide)
  have empty := ends.unread_and_empty.2
  exact ⟨ends, not_staysTold_of_writable empty rfl, not_turnsAway_of_writable empty rfl⟩

end Client

end LedgerClient
