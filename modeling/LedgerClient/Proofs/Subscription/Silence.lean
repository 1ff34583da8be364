import LedgerClient.Proofs.Subscription.Aftermath
import LedgerClient.Proofs.Subscription.Schedule
import Mathlib.Data.List.Induction

/-! # A peer that falls silent

A client that reads is vigilant (`LedgerClient.Client.Vigilant`): its clock tells when the wait
is over, and nothing but a pong puts that off. It stays so until the connection ends or the wait
is over, and then reading ends (`LedgerClient.Client.attend_cases`). When the wait runs out every
live subscription hears that the peer is dead and the tables are empty
(`LedgerClient.Client.losesPeer_of_report?`); before that nobody hears it, unless its own decoder
gives that reason (`LedgerClient.Client.hears_meet`). So a peer that answers is spared, and one
that falls silent is found out (`LedgerClient.Client.watchesPeer_start`).
-/

namespace LedgerClient

variable {α : Type}

/-! ### The end of reading -/

/-- A ping and not a request. -/
def Outgoing.isPing : Outgoing → Bool
  | .ping => true
  | .request _ | .close => false

/-- Why an event ends the reading of a client with some clock, if it does. -/
def ClientEvent.stopReason? (clock : Keepalive) : ClientEvent α → Option SubscriptionError
  | .close | .drop => some .closed
  | .closed => some .connectionClosed
  | .broken reason | .unreadable reason => some (.transport reason)
  | .elapsed span =>
    if (clock.advance span).isExpired then some (.pongTimeout clock.wait) else none
  | .subscribe _ | .receive .. | .unsubscribe _ | .release _ | .frame _ | .pong => none

namespace Client

variable {client : Client α} {event : ClientEvent α} {next : Occurrence α}
  {reason : SubscriptionError} {schedule : List (Occurrence α)}

/-- Why the reading stops at an event. -/
def stopReason? (client : Client α) (event : ClientEvent α) : Option SubscriptionError :=
  if client.isReading then event.stopReason? client.clock else none

/-- Why a client stops reading at an occurrence, if it does. -/
def report? (client : Client α) (next : Occurrence α) : Option SubscriptionError :=
  next.event?.bind client.stopReason?

private theorem reading_of_stopReason? (stops : client.stopReason? event = some reason) :
    client.isReading = true := by
  by_contra idle
  rw [stopReason?, if_neg idle] at stops
  cases stops

/-- All subscriptions are told why reading stops. -/
theorem react_of_stopReason? (stops : client.stopReason? event = some reason) :
    (client.react event).client.session = client.session.failAll reason ∧
      (client.react event).client.isReading = false := by
  have reading := reading_of_stopReason? stops
  rw [stopReason?, if_pos reading] at stops
  cases event with
  | close | drop =>
      cases stops
      exact ⟨rfl, rfl⟩
  | closed | broken | unreadable =>
      cases stops
      simp only [react, reading, if_true]
      exact ⟨rfl, rfl⟩
  | elapsed span =>
      rw [ClientEvent.stopReason?] at stops
      split at stops
      case isTrue expired =>
        cases stops
        simp only [react, elapse, reading, expired, Bool.and_self, if_true]
        exact ⟨rfl, rfl⟩
      case isFalse => cases stops
  | subscribe | receive | unsubscribe | release | frame | pong => cases stops

/-- A client that goes on reading has nothing changed but its session and its clock. -/
theorem exists_react_of_stopReason?_eq_none (reading : client.isReading = true)
    (goesOn : client.stopReason? event = none) :
    ∃ session, (client.react event).client =
      { client with session, clock := client.clock.after event } := by
  rw [stopReason?, if_pos reading] at goesOn
  cases event with
  | close | drop | closed | broken | unreadable => cases goesOn
  | subscribe topic => exact exists_subscribe_eq client topic
  | unsubscribe place => exact exists_unsubscribe_eq client place
  | receive | release => exact ⟨_, rfl⟩
  | frame bytes => exact ⟨_, by rw [react, if_pos reading]; rfl⟩
  | pong => exact ⟨client.session, by rw [react, if_pos reading]; rfl⟩
  | elapsed span =>
      rw [ClientEvent.stopReason?] at goesOn
      split at goesOn
      case isTrue => cases goesOn
      case isFalse heard =>
        refine ⟨client.session, ?_⟩
        simp only [react, elapse, heard, Bool.and_false, Bool.false_eq_true, if_false]
        rfl

/-! ### What is heard of it -/

/-- What a subscription hears: nothing, though some errors may be taken out, or a reason for its
end. That its peer is dead it hears only where `dead` says so, or from its own decoder. -/
inductive Hears (dead : Duration → Prop) (before after : Subscription α) : Prop
  | nothing (keeps : before.Keeps after) (rest : after.errors.items <:+ before.errors.items)
  | ends (reason : SubscriptionError) (told : after = before.fail reason)
      (because : ∀ limit, reason = .pongTimeout limit →
        dead limit ∨ ∃ result, before.decode result = .error reason)

namespace Hears

variable {dead also : Duration → Prop} {before after : Subscription α} {limit : Duration}
  (hears : Hears dead before after)

include hears

private theorem imp (weaker : ∀ limit, dead limit → also limit) : Hears also before after := by
  cases hears with
  | nothing keeps rest => exact .nothing keeps rest
  | ends reason told because =>
      exact .ends reason told fun limit same => (because limit same).imp_left (weaker limit)

/-- Who has heard that the peer is dead heard it before, or hears it now. -/
theorem dead_or_decode (waits : .pongTimeout limit ∈ after.errors.items)
    (before : .pongTimeout limit ∈ before.errors.items →
      ∃ result, before.decode result = .error (.pongTimeout limit)) :
    dead limit ∨ ∃ result, after.decode result = .error (.pongTimeout limit) := by
  cases hears with
  | nothing keeps rest =>
      rw [keeps.decode]
      exact .inr (before (rest.subset waits))
  | ends reason told because =>
      subst told
      rw [Subscription.keeps_fail.decode]
      rcases Subscription.mem_errors_fail waits with early | rfl
      · exact .inr (before early)
      · exact because limit rfl

end Hears

section Reacting

variable {settings : ClientSettings} {place : Nat} {before after : Subscription α}
  (follows : client.Follows settings) (consistent : client.session.Consistent)

include follows consistent

/-- **Nobody hears that the peer is dead** but when the client stops reading for that reason. -/
theorem exists_hears_react (event : ClientEvent α)
    (found : client.session.subscriptions[place]? = some before) :
    ∃ after, (client.react event).client.session.subscriptions[place]? = some after ∧
      Hears (fun limit => client.stopReason? event = some (.pongTimeout limit)) before after := by
  have once (operation : Session.Operation α)
      (because : ∀ limit, client.session.Fails operation place (.pongTimeout limit) →
        client.stopReason? event = some (.pongTimeout limit) ∨
          ∃ result, before.decode result = .error (.pongTimeout limit)) :
      ∃ after, (client.session.run settings [operation]).subscriptions[place]? = some after ∧
        Hears (fun limit => client.stopReason? event = some (.pongTimeout limit)) before
          after := by
    obtain ⟨after, present, keeps, rest | ⟨reason, fails, rfl⟩⟩ :=
      consistent.errors_suffix_or_fails settings operation found
    · exact ⟨after, present, .nothing keeps rest⟩
    · refine ⟨_, present, .ends reason rfl ?_⟩
      rintro limit rfl
      exact because limit fails
  obtain ⟨_, operations, does, reached⟩ := exists_operations_react follows event
  rw [reached]
  cases does with
  | nothing => exact ⟨before, found, .nothing (.refl before) (List.suffix_refl _)⟩
  | registers | receives | unsubscribes | releases | closes | drops | hangsUp | breaks
  | garbles =>
      exact once _ fun limit fails => (fails.absurd nofun nofun nofun).elim
  | takesBack topic requestId =>
      have consistentThen := consistent.step (consistent.step_perform settings (.register topic))
      obtain ⟨between, asked, kept, rest | ⟨_, fails, _⟩⟩ :=
        consistent.errors_suffix_or_fails settings (.register topic) found
      · obtain ⟨after, present, keeps, later | ⟨_, fails, _⟩⟩ :=
          consistentThen.errors_suffix_or_fails settings (.remove requestId) asked
        · exact ⟨after, present, .nothing (kept.trans keeps) (later.trans rest)⟩
        · exact (fails.absurd nofun nofun nofun).elim
      · exact (fails.absurd nofun nofun nofun).elim
  | dispatches => exact once _ fun limit fails => .inr (fails.decode_of_pongTimeout found)
  | expires span reading expired =>
      refine once _ fun limit fails => .inl ?_
      rw [stopReason?, if_pos reading, ClientEvent.stopReason?, if_pos expired]
      by_contra other
      exact fails.absurd nofun nofun
        fun same => other (congrArg some (Session.Operation.failAll.inj same))

/-- Who has just been asked for has heard nothing. -/
theorem unheard_react (event : ClientEvent α)
    (absent : client.session.subscriptions[place]? = none)
    (found : (client.react event).client.session.subscriptions[place]? = some after) :
    after.errors.items = [] := by
  obtain ⟨_, operations, does, reached⟩ := exists_operations_react follows event
  rw [reached] at found
  cases does with
  | nothing => cases absent.symm.trans found
  | registers topic | receives | unsubscribes | releases | closes | drops | hangsUp | breaks
  | garbles | dispatches | expires =>
      obtain ⟨topic, id, _, rfl⟩ :=
        consistent.added (consistent.step_perform settings _) absent found
      rfl
  | takesBack topic requestId =>
      have step := consistent.step_perform settings (.register topic)
      have consistentThen := consistent.step step
      rw [Session.run_cons] at found
      cases between : (client.session.perform settings
          (.register topic)).1.subscriptions[place]? with
      | none =>
          obtain ⟨_, _, impossible, _⟩ := consistentThen.added
            (consistentThen.step_perform settings (.remove requestId)) between found
          cases impossible
      | some asked =>
          obtain ⟨_, _, _, rfl⟩ := consistent.added step absent between
          obtain ⟨_, present, _, rest | ⟨_, fails, _⟩⟩ :=
            consistentThen.errors_suffix_or_fails settings (.remove requestId) between
          · cases present.symm.trans found
            exact List.suffix_nil.mp rest
          · exact (fails.absurd nofun nofun nofun).elim

end Reacting

private theorem countP_write_requests (client : Client α) (requests : List SocketRequest) :
    (client.write (requests.map .request)).countP Outgoing.isPing = 0 := by
  rw [write]
  split
  · rw [List.countP_map]
    exact List.countP_eq_zero.mpr fun _ _ => Bool.false_ne_true
  · rfl

/-- A client that reads has its pings sent, and its clock tells the time. -/
structure Vigilant (client : Client α) (wait period : Duration) (events : List (ClientEvent α)) :
    Prop where
  reading : client.isReading = true
  pinging : client.isPinging = true
  writable : client.writeFault = none
  tells : client.clock.Tells wait period events
  waiting : ¬ client.clock.isExpired = true

namespace Vigilant

variable {wait period : Duration} {events : List (ClientEvent α)}
  (vigilant : client.Vigilant wait period events)

include vigilant

/-- **Why reading ends**: the wait is over, or the connection ends. -/
theorem stopReason?_iff (positive : 0 < wait.nanoseconds) (event : ClientEvent α)
    (limit : Duration) :
    (client.stopReason? event = some (.pongTimeout limit) ↔
        limit = wait ∧ Silent wait.nanoseconds (events ++ [event])) ∧
      (client.stopReason? event = none ↔
        event.endsConnection = false ∧ ¬ Silent wait.nanoseconds (events ++ [event])) := by
  rw [(vigilant.tells.after event).silent_iff, stopReason?, if_pos vigilant.reading]
  cases event with
  | elapsed span =>
      rw [ClientEvent.stopReason?, vigilant.tells.wait_eq, Keepalive.after]
      by_cases expired : (client.clock.advance span).isExpired = true
      · rw [if_pos expired]
        refine ⟨?_, iff_of_false nofun fun goesOn => goesOn.2 expired⟩
        rw [and_iff_left expired, Option.some.injEq, SubscriptionError.pongTimeout.injEq]
        exact eq_comm
      · rw [if_neg expired]
        exact ⟨iff_of_false nofun fun silent => expired silent.2, iff_of_true rfl ⟨rfl, expired⟩⟩
  | pong =>
      have heard := Keepalive.not_isExpired_pong (vigilant.tells.wait_eq ▸ positive)
      exact ⟨iff_of_false nofun fun silent => heard silent.2, iff_of_true rfl ⟨rfl, heard⟩⟩
  | close | drop | closed | broken | unreadable =>
      exact ⟨iff_of_false nofun fun silent => vigilant.waiting silent.2, iff_of_false nofun nofun⟩
  | subscribe | receive | unsubscribe | release | frame =>
      exact ⟨iff_of_false nofun fun silent => vigilant.waiting silent.2,
        iff_of_true rfl ⟨rfl, vigilant.waiting⟩⟩

/-- **A client that goes on reading stays vigilant.** -/
theorem react (positive : 0 < wait.nanoseconds) (goesOn : client.stopReason? event = none) :
    (client.react event).client.Vigilant wait period (events ++ [event]) := by
  obtain ⟨session, same⟩ := exists_react_of_stopReason?_eq_none vigilant.reading goesOn
  have tells := vigilant.tells.after event
  rw [same]
  refine ⟨vigilant.reading, vigilant.pinging, vigilant.writable, tells, ?_⟩
  rw [← tells.silent_iff]
  exact ((vigilant.stopReason?_iff positive event wait).2.mp goesOn).2

/-- **Pings are sent as the multiples of the period go by**, and at no other time. -/
theorem countP_written (event : ClientEvent α) :
    (client.react event).written.countP Outgoing.isPing =
      timeOf (events ++ [event]) / period.nanoseconds - timeOf events / period.nanoseconds := by
  rw [timeOf_append, timeOf_singleton]
  have other (idle : event.span = 0)
      (mute : (client.react event).written.countP Outgoing.isPing = 0) :
      (client.react event).written.countP Outgoing.isPing =
        (timeOf events + event.span) / period.nanoseconds -
          timeOf events / period.nanoseconds := by
    rw [mute, idle, Nat.add_zero, Nat.sub_self]
  cases event with
  | elapsed span =>
      simp only [Client.react, elapse, write, vigilant.pinging, vigilant.writable,
        Option.isNone_none, if_true, List.countP_replicate, Outgoing.isPing]
      rw [← vigilant.tells.now, ← vigilant.tells.period_eq]
      rfl
  | subscribe topic =>
      refine other rfl ?_
      rw [Client.react, Client.subscribe]
      split
      · rfl
      · split
        · rfl
        · rfl
  | unsubscribe place =>
      refine other rfl ?_
      rw [Client.react, Client.unsubscribe]
      split
      · rfl
      · exact countP_write_requests client _
  | receive | release => exact other rfl (countP_write_requests client _)
  | frame bytes =>
      refine other rfl ?_
      rw [Client.react, if_pos vigilant.reading]
      exact countP_write_requests client _
  | close =>
      refine other rfl ?_
      rw [Client.react, write, vigilant.writable]
      rfl
  | pong | closed =>
      refine other rfl ?_
      rw [Client.react, if_pos vigilant.reading]
      rfl
  | drop | broken | unreadable => exact other rfl rfl

end Vigilant

/-! ### Whole schedules -/

variable {wait period : Duration}

/-- What is met next comes last. -/
theorem attend_concat (client : Client α) (schedule : List (Occurrence α))
    (next : Occurrence α) :
    client.attend (schedule ++ [next]) = ((client.attend schedule).meet next).client :=
  List.foldl_concat ..

private theorem meet_of_event? (happens : next.event? = some event) :
    client.meet next = client.react event := by
  rw [meet, happens]

private theorem meet_of_ignored (ignored : next.event? = none) :
    client.meet next = ⟨.done, [], client⟩ := by
  rw [meet, ignored]

/-- What a client comes to is told by what it takes notice of. -/
theorem attend_eq_run (client : Client α) (schedule : List (Occurrence α)) :
    client.attend schedule = client.run (noticed schedule) := by
  induction schedule using List.reverseRecOn with
  | nil => rfl
  | append_singleton schedule next ih =>
      rw [attend_concat, noticed_concat, ih]
      cases happens : next.event? with
      | none => rw [meet_of_ignored happens, Option.toList_none, List.append_nil]
      | some event =>
          rw [meet_of_event? happens, Option.toList_some, run, run, List.foldl_concat]

/-- **Reading goes on** exactly where no end of it is reported. -/
theorem isReading_meet_iff : (client.meet next).client.isReading = true ↔
    client.isReading = true ∧ client.report? next = none := by
  cases happens : next.event? with
  | none =>
      rw [meet_of_ignored happens, report?, happens]
      exact (and_iff_left rfl).symm
  | some event =>
      rw [meet_of_event? happens, report?, happens, Option.bind_some]
      constructor
      · intro reads
        refine ⟨(reading_of_react event reads).1, ?_⟩
        by_contra stops
        obtain ⟨reason, stops⟩ := Option.ne_none_iff_exists'.mp stops
        rw [(react_of_stopReason? stops).2] at reads
        cases reads
      · intro goesOn
        obtain ⟨session, same⟩ := exists_react_of_stopReason?_eq_none goesOn.1 goesOn.2
        rw [same]
        exact goesOn.1

/-- Who has stopped reading does not begin again. -/
theorem idle_attend (idle : client.isReading = false) (schedule : List (Occurrence α)) :
    (client.attend schedule).isReading = false := by
  induction schedule generalizing client with
  | nil => exact idle
  | cons next later ih =>
      refine ih (Bool.eq_false_iff.mpr fun reads => ?_)
      rw [(isReading_meet_iff.mp reads).1] at idle
      cases idle

section Fresh

variable (fresh : client.Vigilant wait period ([] : List (ClientEvent α)))
  (positive : 0 < wait.nanoseconds)

include fresh positive

/-- **A client reads as long as it is in touch**, and is vigilant for as long. -/
theorem attend_cases (schedule : List (Occurrence α)) :
    InTouch wait.nanoseconds (noticed schedule) ∧
        (client.attend schedule).Vigilant wait period (noticed schedule) ∨
      ¬ InTouch wait.nanoseconds (noticed schedule) ∧
        (client.attend schedule).isReading = false := by
  induction schedule using List.reverseRecOn with
  | nil => exact .inl ⟨inTouch_nil positive, fresh⟩
  | append_singleton schedule next ih =>
      rw [attend_concat, noticed_concat]
      cases happens : next.event? with
      | none =>
          rw [meet_of_ignored happens, Option.toList_none, List.append_nil]
          exact ih
      | some event =>
          rw [meet_of_event? happens, Option.toList_some, inTouch_concat]
          rcases ih with ⟨touch, vigilant⟩ | ⟨lost, idle⟩
          · have goesOn := (vigilant.stopReason?_iff positive event wait).2
            cases stops : (client.attend schedule).stopReason? event with
            | none => exact .inl ⟨⟨touch, goesOn.mp stops⟩, vigilant.react positive stops⟩
            | some reason =>
                refine .inr ⟨fun still => ?_, (react_of_stopReason? stops).2⟩
                cases stops.symm.trans (goesOn.mpr still.2)
          · refine .inr ⟨fun still => lost still.1, ?_⟩
            rw [← meet_of_event? happens]
            exact idle_attend idle [next]

/-- The reading stops for want of a pong exactly where the wait runs out. -/
theorem report?_eq_pongTimeout_iff (schedule : List (Occurrence α)) (next : Occurrence α)
    (limit : Duration) :
    (client.attend schedule).report? next = some (.pongTimeout limit) ↔
      limit = wait ∧ RunsOut wait schedule next := by
  rw [report?, RunsOut, noticed_concat]
  rcases attend_cases fresh positive schedule with ⟨touch, vigilant⟩ | ⟨lost, idle⟩
  · rw [and_iff_right touch]
    cases next.event? with
    | none =>
        rw [Option.toList_none, List.append_nil]
        exact iff_of_false nofun fun silent => touch.2 _ List.prefix_rfl silent.2
    | some event => exact (vigilant.stopReason?_iff positive event limit).1
  · refine iff_of_false (fun stops => ?_) fun silent => lost silent.2.1
    obtain ⟨event, _, ends⟩ := Option.bind_eq_some_iff.mp stops
    rw [reading_of_stopReason? ends] at idle
    cases idle

/-- A ping, a pong and the time that goes by do nothing to the session until the wait runs out. -/
theorem rests_meet (timely : next.isKeepalive = true) (waits : ¬ RunsOut wait schedule next) :
    ((client.attend schedule).meet next).client.session = (client.attend schedule).session := by
  have pong : ((client.attend schedule).react .pong).client.session =
      (client.attend schedule).session := by
    rw [react]
    split
    · rfl
    · rfl
  cases next with
  | incoming frame =>
      cases frame with
      | text | binary | close => cases timely
      | ping => rfl
      | pong => exact pong
  | other event =>
      cases event with
      | subscribe | receive | unsubscribe | release | close | drop | frame | closed | broken
      | unreadable => cases timely
      | pong => exact pong
      | elapsed span =>
          change ((client.attend schedule).elapse span).client.session = _
          simp only [elapse]
          split
          case isTrue out =>
            obtain ⟨reading, expired⟩ := Bool.and_eq_true_iff.mp out
            refine (waits ?_).elim
            refine ((report?_eq_pongTimeout_iff fresh positive schedule (.other (.elapsed span))
              (client.attend schedule).clock.wait).mp ?_).2
            rw [report?, Occurrence.event?, Option.bind_some, stopReason?, if_pos reading,
              ClientEvent.stopReason?]
            exact if_pos expired
          case isFalse => rfl

end Fresh

section Bits

variable (client : Client α) (first rest : Duration)

private theorem written_elapse_add :
    (client.elapse ⟨first.nanoseconds + rest.nanoseconds⟩).written =
      (client.elapse first).written ++ ((client.elapse first).client.elapse rest).written := by
  have kept : (client.elapse first).client.clock = client.clock.advance first ∧
      (client.elapse first).client.isPinging = client.isPinging ∧
      (client.elapse first).client.writeFault = client.writeFault := by
    simp only [elapse]
    split
    · exact ⟨rfl, rfl, rfl⟩
    · exact ⟨rfl, rfl, rfl⟩
  obtain ⟨clock, pinging, writable⟩ := kept
  change client.write _ = client.write _ ++ (client.elapse first).client.write _
  rw [write, write, write, writable, pinging, clock, Keepalive.pingsDue_add]
  by_cases writes : client.writeFault.isNone = true
  · by_cases pings : client.isPinging = true
    · simp only [writes, pings, if_true, List.replicate_append_replicate]
    · simp only [writes, pings, Bool.false_eq_true, if_true, if_false, List.append_nil]
  · simp only [writes, Bool.false_eq_true, if_false, List.append_nil]

private theorem client_elapse_add :
    (client.elapse ⟨first.nanoseconds + rest.nanoseconds⟩).client =
      ((client.elapse first).client.elapse rest).client := by
  simp only [elapse, ← Keepalive.advance_advance]
  by_cases reads : client.isReading = true
  · by_cases expired : (client.clock.advance first).isExpired = true
    · have still := Keepalive.isExpired_advance expired rest
      simp only [reads, expired, still, Bool.and_self, if_true, stopReading, Bool.false_and,
        Bool.false_eq_true, if_false]
    · simp only [reads, expired, Bool.and_false, Bool.false_eq_true, if_false]
      rfl
  · simp only [reads, Bool.false_and, Bool.false_eq_true, if_false]

end Bits

/-! ### Watching the peer -/

private theorem answer_receive_of_failed {place : Nat} {isCancelled : Bool}
    (failed : (client.session.receive place isCancelled).1 = .failed reason) :
    (client.receive place isCancelled).answer = .failed reason := by
  simp only [receive, proceed, failed]

/-- What a client makes of the end of the wait: nothing is read any more, the tables are empty, and
every live subscription has been told, and no other. -/
structure LosesPeer (wait : Duration) (before after : Client α) : Prop where
  unread : ∀ later, (after.attend later).isReading = false
  empty : after.session.byRequest = .empty ∧ after.session.bySubscription = .empty ∧
    after.session.cancelled = .empty
  told : ∀ place subscription, before.session.subscriptions[place]? = some subscription →
    before.session.Live place →
    after.session.subscriptions[place]? = some (subscription.fail (.pongTimeout wait))
  /-- That the peer is dead is the only error, and what the holder hears next. -/
  heard : ∀ place subscription, before.session.subscriptions[place]? = some subscription →
    before.session.Live place → subscription.isHeld = true → 0 < before.errorCapacity →
    (subscription.fail (.pongTimeout wait)).errors.items = [.pongTimeout wait] ∧
      (after.receive place false).answer = .failed (.pongTimeout wait)
  spared : ∀ place, ¬ before.session.Live place →
    after.session.subscriptions[place]? = before.session.subscriptions[place]?

/-- A client watches its peer, for a wait and with a period between pings. -/
structure WatchesPeer (client : Client α) (wait period : Duration) : Prop where
  /-- A ping is sent at each multiple of the period, and at no other time. -/
  pings : ∀ schedule next, (client.attend schedule).isReading = true →
    ((client.attend schedule).meet next).written.countP Outgoing.isPing =
      timeOf (noticed (schedule ++ [next])) / period.nanoseconds -
        timeOf (noticed schedule) / period.nanoseconds
  /-- A peer that answers every ping in time is never taken for dead. -/
  spares : ∀ schedule, Answered wait.nanoseconds period.nanoseconds (noticed schedule) →
    ∀ earlier next, earlier ++ [next] <+: schedule →
      ∀ limit, (client.attend earlier).report? next ≠ some (.pongTimeout limit)
  /-- No subscription hears that such a peer is dead, but from its own decoder. -/
  unharmed : ∀ schedule, Answered wait.nanoseconds period.nanoseconds (noticed schedule) →
    ∀ (place : Nat) (subscription : Subscription α) limit,
      (client.attend schedule).session.subscriptions[place]? = some subscription →
      .pongTimeout limit ∈ subscription.errors.items →
        ∃ result, subscription.decode result = .error (.pongTimeout limit)
  /-- A peer is taken for dead when the wait is over, neither earlier nor later. -/
  finds : ∀ schedule next limit,
    (client.attend schedule).report? next = some (.pongTimeout limit) ↔
      limit = wait ∧ RunsOut wait schedule next
  /-- Then all live subscriptions hear it, and nothing is left in the tables. -/
  loses : ∀ schedule next, RunsOut wait schedule next →
    LosesPeer wait (client.attend schedule) ((client.attend schedule).meet next).client
  /-- At no other time does anybody hear it, but from its own decoder. -/
  hears : ∀ schedule next (place : Nat) (after : Subscription α),
    ((client.attend schedule).meet next).client.session.subscriptions[place]? = some after →
    after.errors.items = [] ∨
      ∃ before, (client.attend schedule).session.subscriptions[place]? = some before ∧
        Hears (fun limit => limit = wait ∧ RunsOut wait schedule next) before after
  /-- Time alone and signs of life change nothing as long as the wait does not run out. -/
  rests : ∀ schedule next, next.isKeepalive = true → ¬ RunsOut wait schedule next →
    ((client.attend schedule).meet next).client.session = (client.attend schedule).session
  /-- Where nothing is reported, reading goes on. -/
  continues : ∀ schedule next, (client.attend (schedule ++ [next])).isReading = true ↔
    (client.attend schedule).isReading = true ∧ (client.attend schedule).report? next = none
  /-- What is reported is what all subscriptions are told, and nothing is read any more. -/
  tells : ∀ schedule next reason, (client.attend schedule).report? next = some reason →
    let ended := ((client.attend schedule).meet next).client
    ended.session = (client.attend schedule).session.failAll reason ∧
      ∀ later, (ended.attend later).isReading = false
  /-- Time that goes by at once is time that goes by bit by bit. -/
  divides : ∀ schedule first rest,
    let stopped := (client.attend schedule).elapse first
    let whole := (client.attend schedule).elapse ⟨first.nanoseconds + rest.nanoseconds⟩
    whole.client = (stopped.client.elapse rest).client ∧
      whole.written = stopped.written ++ (stopped.client.elapse rest).written

section Started

variable {settings : ClientSettings} {draws : Nat → UInt64}
  (started : start? settings draws = some client)

include started

/-- Whatever a client has met, its tables are consistent. -/
theorem consistent_attend (schedule : List (Occurrence α)) :
    (client.attend schedule).Follows settings ∧
      (client.attend schedule).session.Consistent := by
  rw [attend_eq_run]
  obtain ⟨follows, operations, reached⟩ := exists_operations_of_start started (noticed schedule)
  exact ⟨follows, reached ▸ (Session.consistent_start _).run operations⟩

/-- **What a client makes of the end of the wait.** -/
theorem losesPeer_of_report? (reported :
      (client.attend schedule).report? next = some (.pongTimeout wait)) :
    LosesPeer wait (client.attend schedule) ((client.attend schedule).meet next).client := by
  obtain ⟨event, happens, stops⟩ := Option.bind_eq_some_iff.mp reported
  obtain ⟨ended, idle⟩ := react_of_stopReason? stops
  obtain ⟨follows, consistent⟩ := consistent_attend started schedule
  rw [meet_of_event? happens]
  refine ⟨idle_attend idle, ?empty, fun place subscription found live => ?told,
    fun place subscription found live held room => ?heard, fun place gone => ?spared⟩
  case empty =>
    rw [ended]
    exact ⟨rfl, rfl, rfl⟩
  case told =>
    rw [ended]
    exact (consistent.getElem?_failAll live).trans (congrArg (Option.map _) found)
  case heard =>
    obtain ⟨_, operations, reached⟩ := exists_operations_of_start started (noticed schedule)
    rw [← attend_eq_run] at reached
    rw [reached] at found live
    obtain ⟨_, hears⟩ := Session.tells_run (follows.2 ▸ room) _ operations found
      (.inr ⟨rfl, live⟩)
    obtain ⟨waiting, tells⟩ := hears held
    refine ⟨waiting, answer_receive_of_failed ?_⟩
    rw [ended, reached]
    exact tells.next [] fun _ absent => (List.not_mem_nil absent).elim
  case spared =>
    rw [ended]
    exact consistent.getElem?_failAll_of_not_live gone

variable (fresh : client.Vigilant wait period ([] : List (ClientEvent α)))
  (positive : 0 < wait.nanoseconds)

include fresh positive

/-- **Nobody hears that the peer is dead before the wait runs out.** -/
theorem hears_meet {place : Nat} {after : Subscription α}
    (found : ((client.attend schedule).meet next).client.session.subscriptions[place]? =
      some after) :
    after.errors.items = [] ∨
      ∃ before, (client.attend schedule).session.subscriptions[place]? = some before ∧
        Hears (fun limit => limit = wait ∧ RunsOut wait schedule next) before after := by
  obtain ⟨follows, consistent⟩ := consistent_attend started schedule
  cases happens : next.event? with
  | none =>
      rw [meet_of_ignored happens] at found
      exact .inr ⟨after, found, .nothing (.refl after) (List.suffix_refl _)⟩
  | some event =>
      rw [meet_of_event? happens] at found
      cases present : (client.attend schedule).session.subscriptions[place]? with
      | none => exact .inl (unheard_react follows consistent event present found)
      | some before =>
          obtain ⟨_, same, hears⟩ := exists_hears_react follows consistent event present
          cases found.symm.trans same
          refine .inr ⟨before, rfl, hears.imp fun limit stops => ?_⟩
          refine (report?_eq_pongTimeout_iff fresh positive schedule next limit).mp ?_
          rw [report?, happens]
          exact stops

/-- **Who answers in time is not said to be dead**, whatever else comes. -/
theorem unharmed_attend (tenths : 10 * period.nanoseconds = 9 * wait.nanoseconds)
    (answered : Answered wait.nanoseconds period.nanoseconds (noticed schedule)) {place : Nat}
    {subscription : Subscription α} {limit : Duration}
    (found : (client.attend schedule).session.subscriptions[place]? = some subscription)
    (waits : .pongTimeout limit ∈ subscription.errors.items) :
    ∃ result, subscription.decode result = .error (.pongTimeout limit) := by
  induction schedule using List.reverseRecOn generalizing subscription with
  | nil =>
      obtain ⟨_, _, rfl⟩ := Option.map_eq_some_iff.mp started
      cases found
  | append_singleton schedule next ih =>
      have early : noticed schedule <+: noticed (schedule ++ [next]) :=
        noticed_concat schedule next ▸ List.prefix_append ..
      rw [attend_concat] at found
      rcases hears_meet started fresh positive found with unheard | ⟨before, present, hears⟩
      · rw [unheard] at waits
        cases waits
      · refine (hears.dead_or_decode waits
          (ih (answered.of_isPrefix early) present)).resolve_left fun dead => ?_
        exact not_silent_of_answered positive tenths answered dead.2.2

end Started

private theorem watchesPeer_of_fresh {settings : ClientSettings} {draws : Nat → UInt64}
    (started : start? settings draws = some client)
    (fresh : client.Vigilant wait period ([] : List (ClientEvent α)))
    (positive : 0 < wait.nanoseconds) (tenths : 10 * period.nanoseconds = 9 * wait.nanoseconds) :
    client.WatchesPeer wait period where
  pings schedule next reads := by
    rcases attend_cases fresh positive schedule with ⟨_, vigilant⟩ | ⟨_, idle⟩
    · rw [noticed_concat]
      cases happens : next.event? with
      | none =>
          rw [meet_of_ignored happens, Option.toList_none, List.append_nil, Nat.sub_self]
          rfl
      | some event =>
          rw [meet_of_event? happens]
          exact vigilant.countP_written event
    · rw [reads] at idle
      cases idle
  spares schedule answered earlier next front limit reported := by
    have silent := ((report?_eq_pongTimeout_iff fresh positive earlier next limit).mp reported).2.2
    have still := answered.of_isPrefix (front.filterMap Occurrence.event?)
    exact not_silent_of_answered positive tenths still silent
  unharmed _ answered _ _ _ found := unharmed_attend started fresh positive tenths answered found
  finds := report?_eq_pongTimeout_iff fresh positive
  loses schedule next out := losesPeer_of_report? started
    ((report?_eq_pongTimeout_iff fresh positive schedule next wait).mpr ⟨rfl, out⟩)
  hears _ _ _ _ found := hears_meet started fresh positive found
  rests _ _ := rests_meet fresh positive
  continues schedule next := by
    rw [attend_concat]
    exact isReading_meet_iff
  tells schedule next reason reported := by
    obtain ⟨event, happens, stops⟩ := Option.bind_eq_some_iff.mp reported
    rw [meet_of_event? happens]
    obtain ⟨told, idle⟩ := react_of_stopReason? stops
    exact ⟨told, idle_attend idle⟩
  divides schedule first rest :=
    ⟨client_elapse_add _ first rest, written_elapse_add _ first rest⟩

/-- **A peer that answers in time is spared, and one that falls silent is found out** as soon as
the wait has passed since the start and since its last pong, whatever else it says. -/
theorem watchesPeer_start {settings : ClientSettings} {period : Duration}
    (draws : Nat → UInt64) (waits : 0 < settings.pongWait.toNat)
    (computed : settings.pingPeriod? = some period) :
    10 * period.nanoseconds = 9 * settings.pongLimit.nanoseconds ∧
      ∃ client : Client α, start? settings draws = some client ∧
        client.WatchesPeer settings.pongLimit period := by
  have tenths := (ClientSettings.pingPeriod?_eq_some_iff.mp computed).2
  have positive : 0 < settings.pongLimit.nanoseconds := by
    rw [ClientSettings.nanoseconds_pongLimit]
    omega
  have given : Keepalive.ofSettings? settings = some (.start settings.pongLimit period) := by
    rw [Keepalive.ofSettings?, computed]
    rfl
  have started : (start? settings draws : Option (Client α)) = some _ :=
    Option.map_eq_some_iff.mpr ⟨_, given, rfl⟩
  refine ⟨tenths, _, started, watchesPeer_of_fresh started
    ⟨rfl, rfl, rfl, Keepalive.tells_start .., ?_⟩ positive tenths⟩
  rw [Keepalive.isExpired_iff]
  exact Nat.not_le.mpr positive

/-- A wait of a minute. -/
theorem watchesPeer_start_tight : 0 < Session.tightSettings.pongWait.toNat ∧
    Session.tightSettings.pingPeriod? = some (.ofSeconds 54) ∧
      10 * (Duration.ofSeconds 54).nanoseconds =
        9 * Session.tightSettings.pongLimit.nanoseconds ∧
      ∃ client : Client UInt64,
        start? Session.tightSettings Session.countingIds.draws = some client ∧
          client.WatchesPeer Session.tightSettings.pongLimit (.ofSeconds 54) :=
  ⟨by decide, rfl, watchesPeer_start _ (by decide) rfl⟩

end Client

end LedgerClient
