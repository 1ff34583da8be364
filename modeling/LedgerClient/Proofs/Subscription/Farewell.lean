import LedgerClient.Proofs.Subscription.Failure
import LedgerClient.Proofs.Subscription.Subject

/-! # What is said to the server

The server is told of the end of a subscription by a request that names the server's id. Such
a request is sent at the end itself, or else in answer to the id, where that comes after the
end. What an operation that takes the lock once says to the server is read off once
(`LedgerClient.Session.Consistent.speaks`).
-/

namespace LedgerClient.Session

variable {α : Type}

/-- An operation ends the subscription at a place: its holder does, or the client does for a
reason. -/
def Ends (session : Session α) (operation : Operation α) (place : Nat) : Prop :=
  session.Live place ∧ (operation = .unsubscribe place ∨ ∃ requestId reason,
    operation = .close requestId reason ∧ session.byRequest.find? requestId = some place)

/-- An operation that needs the lock once: of all frames, only a response does. -/
def Operation.IsWhole (operation : Operation α) : Prop :=
  ∀ bytes, operation = .dispatch bytes →
    ∃ requestId result, Frame.parse bytes = .ok (.response requestId result)

/-- What an operation says to the server, and what becomes of the requests that were given
up. -/
inductive Speaks (settings : ClientSettings) (session : Session α) (operation : Operation α) :
    Prop
  | ends {place} (ends : session.Ends operation place)
  /-- The server gives the id of a subscription that was given up. -/
  | late {requestId result serverId method} (answers : operation.Answers requestId result)
      (word : result.asWord? = some serverId)
      (given : session.cancelled.find? requestId = some method)
      (done : session.perform settings operation =
        (session.remember session.ids.draw.2 (session.cancelled.erase requestId),
          some (farewell method serverId session.ids.draw.1)))
  | lost {reason} (fails : operation = .failAll reason)
  | silent (request : (∀ topic, operation ≠ .register topic) →
        (session.perform settings operation).2 = none)
      (kept : (session.perform settings operation).1.cancelled = session.cancelled)
      (lasts : ∀ reason, operation ≠ .failAll reason)

variable {settings : ClientSettings} {session after : Session α} {operation : Operation α}
  {place : Nat} {subscription next : Subscription α} {requestId : UInt64} {result : Json}

/-- An operation that says nothing and gives nothing up. -/
theorem speaks_of_eq (after : Session α)
    (done : session.perform settings operation = (after, none))
    (kept : after.cancelled = session.cancelled)
    (lasts : ∀ reason, operation ≠ .failAll reason) : Speaks settings session operation := by
  refine .silent (fun _ => by rw [done]) ?_ lasts
  rw [done, kept]

/-- The holder of a live subscription gives it up. -/
theorem perform_unsubscribe_of_known (settings : ClientSettings)
    (found : session.subscriptions[place]? = some subscription)
    (unseen : subscription.isClosed = false)
    (known : session.byRequest.find? subscription.requestId = some place) :
    ∃ ids, session.perform settings (.unsubscribe place) =
      (((session.update place ({ · with isClosed := true })).without subscription.requestId
          subscription.serverId).remember ids
        (if subscription.serverId.isSome then session.cancelled
          else session.cancelled.insert subscription.requestId subscription.unsubscribeMethod),
        subscription.serverId.map
          (farewell subscription.unsubscribeMethod · session.ids.draw.1)) := by
  have present : (session.update place ({ · with isClosed := true })).subscriptions[place]? =
      some { subscription with isClosed := true } := getElem?_update_self found
  obtain ⟨ids, _, done⟩ := cancel_of_known present known
  refine ⟨ids, ?_⟩
  simp only [perform, unsubscribe, found, unseen, Bool.false_eq_true, if_false]
  exact done

namespace Consistent

variable (consistent : session.Consistent)

include consistent

/-- The holder's farewell is spoken of the subscription that is given up. -/
theorem speaks_unsubscribe (settings : ClientSettings) (distinct : session.requestIds.Nodup)
    (place : Nat) : Speaks settings session (.unsubscribe place) := by
  cases found : session.subscriptions[place]? with
  | none =>
      refine speaks_of_eq session ?_ rfl nofun
      simp only [perform, unsubscribe, found]
  | some subscription =>
      cases known : session.byRequest.find? subscription.requestId with
      | some other =>
          obtain ⟨leaving, present, same⟩ := consistent.requested _ _ known
          have here : other = place := place_eq distinct present found same
          exact .ends ⟨⟨_, here ▸ known⟩, .inl rfl⟩
      | none =>
          have kept : (session.update place ({ · with isClosed := true })).Consistent :=
            consistent.update fun _ _ => ⟨rfl, rfl⟩
          have gone := kept.remove_eq_none_iff.mpr known
          by_cases seen : subscription.isClosed = true
          · refine speaks_of_eq session ?_ rfl nofun
            simp only [perform, unsubscribe, found, seen, if_true]
          · refine speaks_of_eq (session.update place ({ · with isClosed := true })) ?_ rfl nofun
            simp only [perform, unsubscribe, found, seen, Bool.false_eq_true, if_false, cancel,
              gone]

/-- An answer says the farewell of a request that was given up, and nothing otherwise. -/
theorem speaks_answer (answers : operation.Answers requestId result) :
    Speaks settings session operation := by
  have same : session.perform settings operation = session.acknowledge requestId result :=
    answers.perform_eq settings
  have lasts : ∀ reason, operation ≠ .failAll reason := by
    obtain ⟨_, rfl, _⟩ := answers
    exact nofun
  cases word : result.asWord? with
  | none =>
      refine speaks_of_eq session ?_ rfl lasts
      simp only [same, acknowledge, word]
  | some serverId =>
      cases known : session.byRequest.find? requestId with
      | some place =>
          obtain ⟨subscription, found, rfl⟩ := consistent.requested _ _ known
          have done := acknowledge_of_known found known word
          refine speaks_of_eq _ (same.trans done) ?_ lasts
          split
          · rfl
          · rfl
      | none =>
          have done := acknowledge_of_unknown known word
          cases given : session.cancelled.find? requestId with
          | none =>
              rw [given] at done
              exact speaks_of_eq _ (same.trans done) rfl lasts
          | some method =>
              rw [given] at done
              exact .late answers word given (same.trans done)

/-- **What an operation says to the server**, it says of an end or in answer to a late id. -/
theorem speaks (settings : ClientSettings) (distinct : session.requestIds.Nodup)
    (whole : operation.IsWhole) : Speaks settings session operation := by
  cases operation with
  | register topic =>
      refine .silent (fun other => (other topic rfl).elim) ?_ (fun _ same => by cases same)
      simp only [perform, register]
      cases session.ids.drawFree session.byRequest.contains with
      | none => rfl
      | some drawn => rfl
  | remove requestId =>
      cases removed : session.remove requestId with
      | none =>
          refine speaks_of_eq session ?_ rfl (fun _ same => by cases same)
          simp only [perform, removed, Option.elim]
      | some result =>
          obtain ⟨_, _, same⟩ := remove_eq_some_iff.mp removed
          refine speaks_of_eq result.1 ?_ ?_ (fun _ same => by cases same)
          · simp only [perform, removed, Option.elim]
          · rw [same]
            rfl
  | receive place isCancelled =>
      refine speaks_of_eq _ rfl ?_ (fun _ same => by cases same)
      rw [receive]
      split
      · rfl
      · rfl
  | unsubscribe place => exact consistent.speaks_unsubscribe settings distinct place
  | release place => exact speaks_of_eq _ rfl rfl fun _ same => by cases same
  | dispatch bytes =>
      obtain ⟨requestId, result, frame⟩ := whole bytes rfl
      exact consistent.speaks_answer ⟨bytes, rfl, frame⟩
  | close requestId reason =>
      cases known : session.byRequest.find? requestId with
      | some place => exact .ends ⟨⟨_, known⟩, .inr ⟨_, _, rfl, known⟩⟩
      | none =>
          refine speaks_of_eq session ?_ rfl (fun _ same => by cases same)
          simp only [perform, close, consistent.remove_eq_none_iff.mpr known]
  | failAll reason => exact .lost rfl

/-- **What the end of a subscription says to the server.** If its holder gives it up and its id is
not known yet, the id is awaited. -/
theorem perform_of_ends (settings : ClientSettings) (untold : session.Untold)
    (found : session.subscriptions[place]? = some subscription)
    (ends : session.Ends operation place) :
    operation.subject? session = some subscription.requestId ∧
    ¬ (session.perform settings operation).1.Live place ∧
    (session.perform settings operation).2 =
      subscription.serverId.map (farewell subscription.unsubscribeMethod · session.ids.draw.1) ∧
    ((operation = .unsubscribe place → subscription.serverId ≠ none) ∧
        (session.perform settings operation).1.cancelled = session.cancelled ∨
      operation = .unsubscribe place ∧ subscription.serverId = none ∧
        (session.perform settings operation).1.cancelled =
          session.cancelled.insert subscription.requestId subscription.unsubscribeMethod) := by
  have known := (consistent.live_iff found).mp ends.1
  obtain ⟨live, rfl | ⟨requestId, reason, rfl, closes⟩⟩ := ends
  · have unseen := (untold place subscription found live).2
    have kept : (session.update place ({ · with isClosed := true })).Consistent :=
      consistent.update fun _ _ => ⟨rfl, rfl⟩
    have present : (session.update place ({ · with isClosed := true })).subscriptions[place]? =
        some { subscription with isClosed := true } := getElem?_update_self found
    obtain ⟨ids, done⟩ := perform_unsubscribe_of_known settings found unseen known
    rw [done]
    refine ⟨?_, fun still => ((kept.live_without_iff present known).mp still).2 rfl, rfl, ?_⟩
    · simp only [Operation.subject?, found, Option.map_some]
    · cases named : subscription.serverId with
      | some serverId => exact .inl ⟨fun _ => Option.some_ne_none serverId, rfl⟩
      | none => exact .inr ⟨rfl, rfl, rfl⟩
  · obtain rfl := consistent.requestId_eq found closes
    obtain ⟨ids, _, done⟩ := close_of_known found known reason
    have same : session.perform settings (.close subscription.requestId reason) = _ := done
    rw [same]
    exact ⟨rfl, fun still => ((consistent.live_without_iff found known).mp still).2 rfl, rfl,
      .inl ⟨fun same => (by cases same), rfl⟩⟩

/-- Nothing is known by the request of a subscription that is not live. -/
theorem unknown_of_not_live (distinct : session.requestIds.Nodup)
    (found : session.subscriptions[place]? = some subscription) (gone : ¬ session.Live place) :
    session.byRequest.find? subscription.requestId = none := by
  by_contra known
  obtain ⟨other, known⟩ := Option.ne_none_iff_exists'.mp known
  obtain ⟨_, present, same⟩ := consistent.requested _ _ known
  have here : other = place := place_eq distinct present found same
  exact gone ⟨_, here ▸ known⟩

end Consistent

/-- The server's id changes by an answer alone. -/
theorem Turn.serverId_eq_of_unanswered
    (turn : session.Turn after place subscription operation next)
    (unanswered : ∀ result, ¬ operation.Answers subscription.requestId result) :
    next.serverId = subscription.serverId := by
  cases turn with
  | rests | released | unsubscribed | removed | displaced => rfl
  | admitted frame => exact (unanswered _ ⟨_, rfl, frame⟩).elim
  | delivered _ done => exact (Subscription.keeps_of_deliver done).2
  | received => exact (subscription.takes_receive _).keeps.2
  | failed => exact Subscription.serverId_fail

end LedgerClient.Session
