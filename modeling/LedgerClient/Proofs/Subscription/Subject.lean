import LedgerClient.Proofs.Subscription.Turn

/-! # What an operation is about

An operation that acknowledges a subscription, brings it a result or ends it is about the
request of that subscription (`LedgerClient.Session.Operation.subject?`). Every other
subscription stays as it is, and as live as it is, while one is spoken of
(`LedgerClient.Session.Turn.eq_of_subject`).
-/

namespace LedgerClient.Session

variable {α : Type}

/-- The request of which the server or its own holder speaks. -/
def Operation.subject? (session : Session α) : Operation α → Option UInt64
  | .unsubscribe place => session.subscriptions[place]?.map (·.requestId)
  | .dispatch bytes =>
    match Frame.parse bytes with
    | .ok (.response requestId _) => some requestId
    | .ok (.failure requestId _ _) => requestId
    | .ok (.notification serverId _) =>
      (session.bySubscription.find? serverId).bind fun place =>
        session.subscriptions[place]?.map (·.requestId)
    | .ok .other | .error _ => none
  | .close requestId _ => some requestId
  | .register _ | .remove _ | .receive .. | .release _ | .failAll _ => none

/-- The server answers a request. -/
def Operation.Answers (operation : Operation α) (requestId : UInt64) (result : Json) : Prop :=
  ∃ bytes, operation = .dispatch bytes ∧ Frame.parse bytes = .ok (.response requestId result)

/-- The server says what became of a request. -/
def Operation.Replies (operation : Operation α) (requestId : UInt64) : Prop :=
  (∃ result, operation.Answers requestId result) ∨ ∃ bytes code message,
    operation = .dispatch bytes ∧
      Frame.parse bytes = .ok (.failure (some requestId) code message)

variable {session after : Session α} {operation : Operation α} {place other : Nat}
  {subscription next : Subscription α} {requestId : UInt64} {reason : SubscriptionError}
  {result : Json}

/-- An operation that answers a request acknowledges it. -/
theorem Operation.Answers.perform_eq (answers : operation.Answers requestId result)
    (settings : ClientSettings) :
    session.perform settings operation = session.acknowledge requestId result := by
  obtain ⟨bytes, rfl, frame⟩ := answers
  simp only [perform, Session.dispatch, frame]

/-- An operation that answers a request is about it. -/
theorem Operation.Answers.subject?_eq (answers : operation.Answers requestId result) :
    operation.subject? session = some requestId := by
  obtain ⟨bytes, rfl, frame⟩ := answers
  simp only [Operation.subject?, frame]

/-- What reaches a subscription is about its request. -/
theorem Reaches.subject?_eq (reaches : session.Reaches operation place result)
    (found : session.subscriptions[place]? = some subscription) :
    operation.subject? session = some subscription.requestId := by
  obtain ⟨bytes, serverId, rfl, frame, listed⟩ := reaches
  simp only [Operation.subject?, frame, listed, Option.bind_some, found, Option.map_some]

/-- What closes a subscription is about its request. -/
theorem Consistent.subject?_of_closes (consistent : session.Consistent)
    (closes : session.Closes operation place reason)
    (found : session.subscriptions[place]? = some subscription) :
    operation.subject? session = some subscription.requestId := by
  cases closes with
  | undelivered reaches => exact reaches.subject?_eq found
  | rejected frame known =>
      have same := consistent.requestId_eq found known
      simp only [Operation.subject?, frame, same]
  | closed known =>
      have same := consistent.requestId_eq found known
      simp only [Operation.subject?, same]

/-- **Speaking of one request leaves the subscriptions of all others alone.** -/
theorem Turn.eq_of_subject (turn : session.Turn after place subscription operation next)
    (consistent : session.Consistent)
    (found : session.subscriptions[place]? = some subscription)
    (about : operation.subject? session = some requestId)
    (elsewhere : requestId ≠ subscription.requestId) :
    next = subscription ∧ (after.Live place ↔ session.Live place) := by
  have unnamed : operation.subject? session ≠ some subscription.requestId := by
    rw [about]
    exact fun same => elsewhere (Option.some.inj same)
  cases turn with
  | rests live => exact ⟨rfl, live⟩
  | admitted frame =>
      refine (unnamed ?_).elim
      simp only [Operation.subject?, frame]
  | delivered reaches => exact (unnamed (reaches.subject?_eq found)).elim
  | unsubscribed =>
      refine (unnamed ?_).elim
      simp only [Operation.subject?, found, Option.map_some]
  | displaced _ present same =>
      refine (unnamed ?_).elim
      simp only [Operation.subject?, present, Option.map_some, same]
  | failed fails =>
      rcases fails with closes | ⟨rfl, _⟩
      · exact (unnamed (consistent.subject?_of_closes closes found)).elim
      · cases about
  | received | released | removed => cases about

end LedgerClient.Session
