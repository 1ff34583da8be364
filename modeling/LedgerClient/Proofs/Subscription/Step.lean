import LedgerClient.Proofs.Subscription.Exchange
import LedgerClient.Proofs.Subscription.RequestIds
import LedgerClient.Proofs.Subscription.Run
import LedgerClient.Proofs.Subscription.Tables

/-! # What an operation does to a session

Whatever an operation is, it adds a subscription, changes one, takes one out of the tables,
or gives all of them up (`LedgerClient.Session.Step`). This is read off the operations once
(`LedgerClient.Session.Consistent.step_perform`); that the tables stay consistent along a run
follows from it (`LedgerClient.Session.Consistent.run`).
-/

namespace LedgerClient.Session

variable {α : Type}

/-- A notification is looked up and found to be for the subscription at a place. -/
def Reaches (session : Session α) (operation : Operation α) (place : Nat) (result : Json) : Prop :=
  ∃ bytes serverId, operation = .dispatch bytes ∧
    Frame.parse bytes = .ok (.notification serverId result) ∧
      session.bySubscription.find? serverId = some place

/-- An operation that brings no frame and takes nothing out. -/
def Operation.isQuiet : Operation α → Bool
  | .receive .. | .dispatch _ => false
  | .register _ | .remove _ | .unsubscribe _ | .release _ | .close .. | .failAll _ => true

/-- An operation puts nothing into the subscription at a place and takes nothing out. -/
structure Spares (session : Session α) (operation : Operation α) (place : Nat) : Prop where
  unreached : ∀ result, ¬ session.Reaches operation place result
  untaken : ∀ isCancelled, operation ≠ .receive place isCancelled

/-- An operation ends the subscription at a place, and no other, for a reason. -/
inductive Closes (session : Session α) : Operation α → Nat → SubscriptionError → Prop
  /-- A result cannot be delivered. -/
  | undelivered {operation place result subscription reason}
      (reaches : session.Reaches operation place result)
      (found : session.subscriptions[place]? = some subscription)
      (refused : subscription.deliver result = .error reason) :
      Closes session operation place reason
  /-- The server reports a failure of the request. -/
  | rejected {bytes requestId code message place}
      (frame : Frame.parse bytes = .ok (.failure (some requestId) code message))
      (known : session.byRequest.find? requestId = some place) :
      Closes session (.dispatch bytes) place (.rpc code message)
  /-- The client ends it. -/
  | closed {requestId reason place} (known : session.byRequest.find? requestId = some place) :
      Closes session (.close requestId reason) place reason

/-- What an operation does to a session. -/
inductive Step (settings : ClientSettings) (session : Session α) :
    Operation α → Session α → Prop
  /-- Nothing, but for ids that are drawn and requests that are given up. -/
  | rests {operation ids cancelled} (later : session.ids.Later ids)
      (spared : ∀ place, session.subscriptions[place]? ≠ none → session.Spares operation place) :
      Step settings session operation (session.remember ids cancelled)
  | registered {topic : Topic α} {id ids}
      (drawn : session.ids.drawFree session.byRequest.contains = some (id, ids)) :
      Step settings session (.register topic)
        ((session.add (.ofTopic topic id settings.resultCapacity.toNat
          settings.errorCapacity.toNat)).remember ids session.cancelled)
  | acknowledged {bytes place subscription result serverId}
      (frame : Frame.parse bytes = .ok (.response subscription.requestId result))
      (found : session.subscriptions[place]? = some subscription)
      (known : session.byRequest.find? subscription.requestId = some place)
      (unnamed : subscription.serverId = none) (word : result.asWord? = some serverId) :
      Step settings session (.dispatch bytes) (session.accept serverId place)
  | delivered {operation place subscription result next}
      (reaches : session.Reaches operation place result)
      (found : session.subscriptions[place]? = some subscription)
      (done : subscription.deliver result = .ok next) :
      Step settings session operation (session.update place fun _ => next)
  | received {place isCancelled subscription}
      (found : session.subscriptions[place]? = some subscription) :
      Step settings session (.receive place isCancelled)
        (session.update place fun _ => (subscription.receive isCancelled).2)
  | released {place} :
      Step settings session (.release place) (session.update place ({ · with isHeld := false }))
  /-- Its holder ends a subscription of which the request is not known any more. -/
  | shut {place subscription} (found : session.subscriptions[place]? = some subscription)
      (unseen : subscription.isClosed = false)
      (unknown : session.byRequest.find? subscription.requestId = none) :
      Step settings session (.unsubscribe place)
        (session.update place ({ · with isClosed := true }))
  /-- Its holder ends a subscription, and what is known by its request leaves. -/
  | unsubscribed {place subscription other leaving ids cancelled}
      (found : session.subscriptions[place]? = some subscription)
      (unseen : subscription.isClosed = false)
      (present : (session.update place ({ · with isClosed := true })).subscriptions[other]? =
        some leaving)
      (same : leaving.requestId = subscription.requestId)
      (known : session.byRequest.find? leaving.requestId = some other)
      (later : session.ids.Later ids) :
      Step settings session (.unsubscribe place)
        (((session.update place ({ · with isClosed := true })).without leaving.requestId
          leaving.serverId).remember ids cancelled)
  /-- A subscription leaves because its request could not be written. -/
  | removed {place subscription} (found : session.subscriptions[place]? = some subscription)
      (known : session.byRequest.find? subscription.requestId = some place) :
      Step settings session (.remove subscription.requestId)
        (session.without subscription.requestId subscription.serverId)
  | closed {operation place subscription reason ids cancelled}
      (closes : session.Closes operation place reason)
      (found : session.subscriptions[place]? = some subscription)
      (known : session.byRequest.find? subscription.requestId = some place)
      (later : session.ids.Later ids) :
      Step settings session operation
        (((session.without subscription.requestId subscription.serverId).update place
          (·.fail reason)).remember ids cancelled)
  | failed {reason} : Step settings session (.failAll reason) (session.failAll reason)

/-- The request that ends a subscription at the server. -/
def farewell (method : String) (serverId id : UInt64) : SocketRequest :=
  .ofSettings method [.ofNat serverId.toNat] [] id

variable {settings : ClientSettings} {session after : Session α} {operation : Operation α}
  {place other : Nat} {subscription : Subscription α} {requestId : UInt64}
  {reason : SubscriptionError}

/-- A quiet operation puts in nothing and takes out nothing. -/
theorem spares_of_isQuiet (quiet : operation.isQuiet = true) : session.Spares operation place where
  unreached := by
    rintro _ ⟨_, _, rfl, _⟩
    cases quiet
  untaken := by
    rintro _ rfl
    cases quiet

/-- Receiving at one place spares the others. -/
theorem spares_of_receive {isCancelled : Bool} (elsewhere : other ≠ place) :
    session.Spares (.receive other isCancelled) place where
  unreached := by
    rintro _ ⟨_, _, impossible, _⟩
    cases impossible
  untaken := by
    rintro _ same
    cases same
    exact elsewhere rfl

/-- A frame spares a place unless it is a notification that is listed there. -/
theorem spares_of_frame (session : Session α) (place : Nat) {bytes : List UInt8}
    {outcome : Except Json.Fault Frame} (frame : Frame.parse bytes = outcome)
    (unlisted : ∀ serverId result, outcome = .ok (.notification serverId result) →
      session.bySubscription.find? serverId = none) : session.Spares (.dispatch bytes) place := by
  refine ⟨?unreached, ?untaken⟩
  case unreached =>
    rintro result ⟨_, serverId, ⟨⟩, notified, listed⟩
    rw [unlisted serverId result (frame.symm.trans notified)] at listed
    cases listed
  case untaken =>
    intro _ impossible
    cases impossible

/-- An answer that gives a live subscription its id, unless it has one. -/
theorem acknowledge_of_known {result : Json} {serverId : UInt64}
    (found : session.subscriptions[place]? = some subscription)
    (known : session.byRequest.find? subscription.requestId = some place)
    (word : result.asWord? = some serverId) :
    session.acknowledge subscription.requestId result =
      (if subscription.serverId.isSome then session else session.accept serverId place, none) := by
  have live : session.live? subscription.requestId = some (place, subscription) := by
    simp only [live?, known, Option.bind_eq_bind, Option.bind_some, found, Option.pure_def]
  rw [acknowledge, word]
  simp only [live]
  split
  · rfl
  · rfl

/-- An answer to a request that is not live: the server is told, if it has not been. -/
theorem acknowledge_of_unknown {result : Json} {serverId : UInt64}
    (unknown : session.byRequest.find? requestId = none)
    (word : result.asWord? = some serverId) :
    session.acknowledge requestId result =
      match session.cancelled.find? requestId with
      | some method =>
        (session.remember session.ids.draw.2 (session.cancelled.erase requestId),
          some (farewell method serverId session.ids.draw.1))
      | none => (session, none) := by
  have dead : session.live? requestId = none := by
    simp only [live?, unknown, Option.bind_eq_bind, Option.bind_none]
  rw [acknowledge, word]
  simp only [dead]
  cases session.cancelled.find? requestId with
  | none => rfl
  | some method => rfl

section Leaving

variable (found : session.subscriptions[place]? = some subscription)
  (known : session.byRequest.find? subscription.requestId = some place)

include found known

/-- Ending a live subscription takes it out of the tables and tells its holder why; the server is
told if its id is known. -/
theorem close_of_known (reason : SubscriptionError) : ∃ ids, session.ids.Later ids ∧
    session.close subscription.requestId reason =
      (((session.without subscription.requestId subscription.serverId).update place
        (·.fail reason)).remember ids session.cancelled,
        subscription.serverId.map
          (farewell subscription.unsubscribeMethod · session.ids.draw.1)) := by
  simp only [close, remove_eq_some_iff.mpr ⟨known, found, rfl⟩]
  cases subscription.serverId with
  | none => exact ⟨_, .refl _, rfl⟩
  | some serverId => exact ⟨_, IdSource.later_draw _, rfl⟩

/-- Giving a live subscription up does the same, but that the server is told later if its id is
not known. -/
theorem cancel_of_known : ∃ ids, session.ids.Later ids ∧
    session.cancel subscription.requestId =
      ((session.without subscription.requestId subscription.serverId).remember ids
        (if subscription.serverId.isSome then session.cancelled
          else session.cancelled.insert subscription.requestId subscription.unsubscribeMethod),
        subscription.serverId.map
          (farewell subscription.unsubscribeMethod · session.ids.draw.1)) := by
  simp only [cancel, remove_eq_some_iff.mpr ⟨known, found, rfl⟩]
  cases subscription.serverId with
  | none => exact ⟨_, .refl _, rfl⟩
  | some serverId => exact ⟨_, IdSource.later_draw _, rfl⟩

end Leaving

namespace Consistent

variable (consistent : session.Consistent)

include consistent

/-- What ends one subscription takes it out of the tables and tells its holder why. -/
theorem exists_of_closes (settings : ClientSettings)
    (closes : session.Closes operation place reason) :
    ∃ subscription ids, session.subscriptions[place]? = some subscription ∧
      session.byRequest.find? subscription.requestId = some place ∧ session.ids.Later ids ∧
        session.perform settings operation =
          (((session.without subscription.requestId subscription.serverId).update place
            (·.fail reason)).remember ids session.cancelled,
            subscription.serverId.map
              (farewell subscription.unsubscribeMethod · session.ids.draw.1)) := by
  cases closes with
  | undelivered reaches found refused =>
      obtain ⟨bytes, serverId, rfl, frame, listed⟩ := reaches
      have known := (consistent.live_iff found).mp (consistent.live_of_listed ⟨serverId, listed⟩)
      obtain ⟨ids, later, done⟩ := close_of_known found known reason
      refine ⟨_, ids, found, known, later, ?_⟩
      simp only [perform, dispatch, frame, notify, listed, found, refused, done]
  | @rejected bytes _ code message _ frame known =>
      obtain ⟨subscription, found, rfl⟩ := consistent.requested _ _ known
      obtain ⟨ids, later, done⟩ := close_of_known found known (.rpc code message)
      refine ⟨_, ids, found, known, later, ?_⟩
      simp only [perform, dispatch, frame, reject, IdTable.contains, known, Option.isSome_some,
        if_true, done]
  | closed known =>
      obtain ⟨subscription, found, rfl⟩ := consistent.requested _ _ known
      obtain ⟨ids, later, done⟩ := close_of_known found known reason
      exact ⟨_, ids, found, known, later, done⟩

private theorem step_of_closes (closes : session.Closes operation place reason) :
    session.Step settings operation (session.perform settings operation).1 := by
  obtain ⟨subscription, ids, found, known, later, done⟩ :=
    consistent.exists_of_closes settings closes
  rw [done]
  exact .closed closes found known later

end Consistent

private theorem step_self
    (spared : ∀ place, session.subscriptions[place]? ≠ none → session.Spares operation place) :
    session.Step settings operation session :=
  .rests (.refl session.ids) spared

private theorem step_register (topic : Topic α) :
    session.Step settings (.register topic) (session.perform settings (.register topic)).1 := by
  simp only [perform, register]
  cases drawn : session.ids.drawFree session.byRequest.contains with
  | none => exact step_self fun _ _ => spares_of_isQuiet rfl
  | some result => exact .registered drawn

/-- A session in which the next id has been drawn for one more subscription. -/
def opening (topic : Topic α) (results errors : Nat) (session : Session α) : Session α :=
  (session.add (.ofTopic topic session.ids.draw.1 results errors)).remember session.ids.draw.2
    session.cancelled

/-- A request is made under the next id if that is free. -/
theorem register_of_free {topic : Topic α} {results errors : Nat}
    (free : session.byRequest.contains session.ids.draw.1 = false) :
    session.register topic results errors =
      some (session.opening topic results errors, session.subscriptions.length,
        .ofSettings topic.method topic.params topic.settings session.ids.draw.1) := by
  simp only [register, IdSource.drawFree_of_free free]
  rfl

/-- The session with such a request. -/
theorem perform_register_of_free {topic : Topic α}
    (free : session.byRequest.contains session.ids.draw.1 = false) :
    (session.perform settings (.register topic)).1 =
      (session.add (.ofTopic topic session.ids.draw.1 settings.resultCapacity.toNat
        settings.errorCapacity.toNat)).remember session.ids.draw.2 session.cancelled := by
  simp only [perform, register_of_free free]
  rfl

private theorem step_receive (isCancelled : Bool) :
    session.Step settings (.receive place isCancelled)
      (session.perform settings (.receive place isCancelled)).1 := by
  simp only [perform, receive]
  cases found : session.subscriptions[place]? with
  | none =>
      refine step_self fun other present => spares_of_receive ?_
      rintro rfl
      exact present found
  | some subscription => exact .received found

namespace Consistent

variable (consistent : session.Consistent)

include consistent

private theorem step_remove :
    session.Step settings (.remove requestId) (session.perform settings (.remove requestId)).1 := by
  simp only [perform]
  cases removed : session.remove requestId with
  | none => exact step_self fun _ _ => spares_of_isQuiet rfl
  | some result =>
      obtain ⟨known, found, same⟩ := remove_eq_some_iff.mp removed
      obtain rfl := consistent.requestId_eq found known
      rw [Option.elim, same]
      exact .removed found known

private theorem step_unsubscribe : session.Step settings (.unsubscribe place)
    (session.perform settings (.unsubscribe place)).1 := by
  simp only [perform, unsubscribe]
  cases found : session.subscriptions[place]? with
  | none => exact step_self fun _ _ => spares_of_isQuiet rfl
  | some subscription =>
      by_cases seen : subscription.isClosed = true
      · simp only [seen, if_true]
        exact step_self fun _ _ => spares_of_isQuiet rfl
      · simp only [seen, Bool.false_eq_true, if_false]
        have kept : (session.update place ({ · with isClosed := true })).Consistent :=
          consistent.update fun _ _ => ⟨rfl, rfl⟩
        cases known : session.byRequest.find? subscription.requestId with
        | none =>
            rw [cancel, kept.remove_eq_none_iff.mpr known]
            exact .shut found (eq_false_of_ne_true seen) known
        | some other =>
            obtain ⟨leaving, present, same⟩ := kept.requested _ _ known
            rw [← same] at known ⊢
            obtain ⟨ids, later, done⟩ := cancel_of_known present known
            rw [done]
            exact .unsubscribed found (eq_false_of_ne_true seen) present same known later

private theorem step_acknowledge {bytes : List UInt8} {result : Json}
    (frame : Frame.parse bytes = .ok (.response requestId result)) :
    session.Step settings (.dispatch bytes) (session.acknowledge requestId result).1 := by
  have spared := fun place (_ : session.subscriptions[place]? ≠ none) =>
    spares_of_frame session place frame (by simp)
  cases word : result.asWord? with
  | none =>
      rw [acknowledge, word]
      exact step_self spared
  | some serverId =>
      cases known : session.byRequest.find? requestId with
      | some place =>
          obtain ⟨subscription, found, rfl⟩ := consistent.requested _ _ known
          rw [acknowledge_of_known found known word]
          cases unnamed : subscription.serverId with
          | some named => exact step_self spared
          | none => exact .acknowledged frame found known unnamed word
      | none =>
          rw [acknowledge_of_unknown known word]
          cases session.cancelled.find? requestId with
          | none => exact step_self spared
          | some method => exact .rests (IdSource.later_draw _) spared

private theorem step_notify {bytes : List UInt8} {serverId : UInt64} {result : Json}
    (frame : Frame.parse bytes = .ok (.notification serverId result)) :
    session.Step settings (.dispatch bytes) (session.perform settings (.dispatch bytes)).1 := by
  cases listed : session.bySubscription.find? serverId with
  | none =>
      simp only [perform, dispatch, frame, notify, listed]
      refine step_self fun place _ => spares_of_frame session place frame ?_
      rintro _ _ ⟨⟩
      exact listed
  | some place =>
      have reaches : session.Reaches (.dispatch bytes) place result :=
        ⟨bytes, serverId, rfl, frame, listed⟩
      obtain ⟨subscription, found, _⟩ := consistent.acknowledged _ _ listed
      cases done : subscription.deliver result with
      | ok next =>
          simp only [perform, dispatch, frame, notify, listed, found, done]
          exact .delivered reaches found done
      | error reason => exact consistent.step_of_closes (.undelivered reaches found done)

private theorem step_reject {bytes : List UInt8} {requestId : Option UInt64} {code : Int}
    {message : String} (frame : Frame.parse bytes = .ok (.failure requestId code message)) :
    session.Step settings (.dispatch bytes) (session.perform settings (.dispatch bytes)).1 := by
  have spared := fun place (_ : session.subscriptions[place]? ≠ none) =>
    spares_of_frame session place frame (by simp)
  cases requestId with
  | none =>
      simp only [perform, dispatch, frame, reject]
      exact step_self spared
  | some id =>
      cases known : session.byRequest.find? id with
      | some place => exact consistent.step_of_closes (.rejected frame known)
      | none =>
          simp only [perform, dispatch, frame, reject, IdTable.contains, known,
            Option.isSome_none, Bool.false_eq_true, if_false]
          exact .rests (.refl session.ids) spared

/-- Every frame is a step. -/
theorem step_dispatch (bytes : List UInt8) : session.Step settings (.dispatch bytes)
    (session.perform settings (.dispatch bytes)).1 := by
  cases frame : Frame.parse bytes with
  | error fault =>
      simp only [perform, dispatch, frame]
      exact step_self fun place _ => spares_of_frame session place frame (by simp)
  | ok said =>
      cases said with
      | other =>
          simp only [perform, dispatch, frame]
          exact step_self fun place _ => spares_of_frame session place frame (by simp)
      | response requestId result =>
          simp only [perform, dispatch, frame]
          exact consistent.step_acknowledge frame
      | notification serverId result => exact consistent.step_notify frame
      | failure requestId code message => exact consistent.step_reject frame

/-- **An operation does nothing else** than these steps. -/
theorem step_perform (settings : ClientSettings) (operation : Operation α) :
    session.Step settings operation (session.perform settings operation).1 := by
  cases operation with
  | register topic => exact step_register topic
  | remove requestId => exact consistent.step_remove
  | receive place isCancelled => exact step_receive isCancelled
  | unsubscribe place => exact consistent.step_unsubscribe
  | release place => exact .released
  | dispatch bytes => exact consistent.step_dispatch bytes
  | close requestId reason =>
      cases known : session.byRequest.find? requestId with
      | some place => exact consistent.step_of_closes (.closed known)
      | none =>
          rw [perform, close, consistent.remove_eq_none_iff.mpr known]
          exact step_self fun _ _ => spares_of_isQuiet rfl
  | failAll reason => exact .failed

end Consistent

/-- **Every step keeps the tables consistent.** -/
theorem Consistent.step (consistent : session.Consistent)
    (step : session.Step settings operation after) : after.Consistent := by
  cases step with
  | rests later _ => exact consistent.remember _ _
  | registered drawn =>
      obtain ⟨free, _⟩ := IdSource.exists_of_drawFree drawn
      exact (consistent.add (IdTable.contains_eq_false_iff.mp free)).remember _ _
  | acknowledged _ found known unnamed => exact consistent.accept found known unnamed
  | delivered _ found done =>
      refine consistent.update fun _ present => ?_
      rw [found] at present
      cases present
      obtain ⟨keeps, named⟩ := Subscription.keeps_of_deliver done
      exact ⟨keeps.requestId, named⟩
  | @received _ isCancelled subscription found =>
      refine consistent.update fun _ present => ?_
      rw [found] at present
      cases present
      obtain ⟨keeps, named⟩ := (subscription.takes_receive isCancelled).keeps
      exact ⟨keeps.requestId, named⟩
  | released => exact consistent.update fun _ _ => ⟨rfl, rfl⟩
  | shut => exact consistent.update fun _ _ => ⟨rfl, rfl⟩
  | unsubscribed _ _ present _ known _ =>
      refine Consistent.remember (Consistent.without ?_ present known) _ _
      exact consistent.update fun _ _ => ⟨rfl, rfl⟩
  | removed found known => exact consistent.without found known
  | closed _ found known _ =>
      refine ((consistent.without found known).update fun subscription _ => ?_).remember _ _
      exact ⟨Subscription.keeps_fail.requestId, Subscription.serverId_fail⟩
  | failed => exact consistent_failAll

/-- What is known by a request after a step was known before, or the request is new. -/
theorem Step.known_before (step : session.Step settings operation after)
    (known : after.byRequest.find? requestId = some place) :
    session.byRequest.find? requestId = some place ∨
      (∃ topic, operation = .register topic) ∧
        session.ids.drawFree session.byRequest.contains = some (requestId, after.ids) ∧
        ∃ subscription, after.subscriptions = session.subscriptions ++ [subscription] ∧
          subscription.requestId = requestId := by
  cases step with
  | rests | acknowledged | delivered | received | released | shut => exact .inl known
  | registered drawn =>
      have here := find?_byRequest_add.symm.trans known
      split at here
      case isTrue same =>
        subst same
        exact .inr ⟨⟨_, rfl⟩, drawn, _, rfl, rfl⟩
      case isFalse => exact .inl here
  | unsubscribed | removed | closed =>
      have here := IdTable.find?_erase.symm.trans known
      split at here
      · cases here
      · exact .inl here
  | failed => cases known

/-- **The tables are consistent along every run.** -/
theorem Consistent.run (consistent : session.Consistent) (operations : List (Operation α)) :
    (session.run settings operations).Consistent :=
  run_induction consistent (fun _ _ kept => kept.step (kept.step_perform settings _)) operations

/-- What every step keeps while the tables are consistent, every run keeps. -/
theorem Consistent.run_induction (consistent : session.Consistent) (kept : Session α → Prop)
    (start : kept session)
    (step : ∀ session operation after, session.Consistent →
      session.Step settings operation after → kept session → kept after)
    (operations : List (Operation α)) : kept (session.run settings operations) := by
  induction operations generalizing session with
  | nil => exact start
  | cons operation later ih =>
      have first := consistent.step_perform settings operation
      exact ih (consistent.step first) (step _ _ _ consistent first start)

end LedgerClient.Session
