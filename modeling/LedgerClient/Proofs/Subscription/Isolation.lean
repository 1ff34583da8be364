import LedgerClient.Proofs.Subscription.Subject

/-! # Subscriptions beside each other

What concerns one subscription leaves the request and the queues of every other live one alone
(`LedgerClient.Session.Consistent.spared`). With the table of server ids it is different, because
the server chooses the ids: an id that it gives to two live subscriptions is listed for the
later one only, and is forgotten when either of them leaves. Live subscriptions are isolated
from each other exactly as long as this does not happen (`LedgerClient.Session.isolated_iff`).
-/

namespace LedgerClient.Session

open Sequence (eq_of_getElem?_concat)

variable {α : Type} {settings : ClientSettings} {session after : Session α}
  {operation : Operation α} {place other : Nat} {subscription neighbour : Subscription α}
  {requestId serverId : UInt64} {change : Subscription α → Subscription α}

/-- Every live subscription that has a server's id is found under it. -/
def Reachable (session : Session α) : Prop :=
  ∀ (place : Nat) (subscription : Subscription α) (serverId : UInt64),
    session.subscriptions[place]? = some subscription → session.Live place →
    subscription.serverId = some serverId → session.bySubscription.find? serverId = some place

/-- The server gives the id of one live subscription to another one. -/
inductive Repeats (session : Session α) (operation : Operation α) : Prop
  | intro {place other subscription neighbour result serverId}
      (answers : operation.Answers subscription.requestId result)
      (word : result.asWord? = some serverId)
      (found : session.subscriptions[place]? = some subscription) (live : session.Live place)
      (unnamed : subscription.serverId = none)
      (present : session.subscriptions[other]? = some neighbour) (alive : session.Live other)
      (named : neighbour.serverId = some serverId)

/-! ### Staying reachable -/

namespace Reachable

variable (reachable : session.Reachable)

include reachable

/-- A change that keeps the server's id keeps the live subscriptions reachable. -/
theorem update (keeps : ∀ subscription, session.subscriptions[place]? = some subscription →
    (change subscription).serverId = subscription.serverId) :
    (session.update place change).Reachable := by
  intro other next serverId present live named
  by_cases same : other = place
  · subst same
    cases found : session.subscriptions[other]? with
    | none =>
        rw [update_getElem?_eq_none_iff.mpr found] at present
        cases present
    | some subscription =>
        have changed : next = change subscription :=
          Option.some.inj (present.symm.trans (getElem?_update_self found))
        have before : subscription.serverId = some serverId := by
          rw [← keeps subscription found, ← changed, named]
        exact reachable other subscription serverId found live before
  · rw [getElem?_update_of_ne same] at present
    exact reachable other next serverId present live named

/-- A new subscription, without an id of the server, keeps the others reachable. -/
theorem add (unnamed : subscription.serverId = none)
    (free : session.byRequest.find? subscription.requestId = none) :
    (session.add subscription).Reachable := by
  intro place next serverId present live named
  cases before : session.subscriptions[place]? with
  | none =>
      have new : next = subscription := (eq_of_getElem?_concat before present).2
      rw [new, unnamed] at named
      cases named
  | some old =>
      have inside := (List.getElem?_eq_some_iff.mp before).1
      have still : next = old :=
        Option.some.inj (present.symm.trans ((List.getElem?_append_left inside).trans before))
      have lived := (live_add_iff (Nat.ne_of_lt inside) free).mp live
      exact reachable place old serverId before lived (still ▸ named)

/-- An id of the server that no live subscription has hides none of them. -/
theorem accept (found : session.subscriptions[place]? = some subscription)
    (apart : ∀ other neighbour, session.subscriptions[other]? = some neighbour →
      session.Live other → neighbour.serverId ≠ some serverId) :
    (session.accept serverId place).Reachable := by
  intro other next id present live named
  rw [find?_bySubscription_accept]
  by_cases same : other = place
  · subst same
    have accepted : next = { subscription with serverId := some serverId } :=
      Option.some.inj (present.symm.trans (getElem?_update_self found))
    rw [accepted] at named
    rw [if_pos (Option.some.inj named).symm]
  · have before : session.subscriptions[other]? = some next :=
      (getElem?_update_of_ne same).symm.trans present
    have different : id ≠ serverId := fun again => apart other next before live (again ▸ named)
    rw [if_neg different]
    exact reachable other next id before live named

/-- Nobody else is reached under the id of the one who leaves. -/
theorem without (consistent : session.Consistent)
    (found : session.subscriptions[place]? = some subscription)
    (known : session.byRequest.find? subscription.requestId = some place) :
    (session.without subscription.requestId subscription.serverId).Reachable := by
  intro other next serverId present live named
  obtain ⟨before, elsewhere⟩ := (consistent.live_without_iff found known).mp live
  have here := reachable other next serverId present before named
  have different : subscription.serverId ≠ some serverId := by
    intro same
    have there := reachable place subscription serverId found ⟨_, known⟩ same
    exact elsewhere (Option.some.inj (here.symm.trans there))
  rw [find?_bySubscription_without, if_neg different]
  exact here

/-- **Everybody stays reachable** in a step that does not repeat an id. -/
theorem step (consistent : session.Consistent) (step : session.Step settings operation after)
    (unrepeated : ¬ session.Repeats operation) : after.Reachable := by
  cases step with
  | rests => exact reachable
  | registered drawn =>
      obtain ⟨free, _⟩ := IdSource.exists_of_drawFree drawn
      exact reachable.add rfl (IdTable.contains_eq_false_iff.mp free)
  | acknowledged frame found known unnamed word =>
      refine reachable.accept found fun other neighbour present alive named => unrepeated ?_
      exact .intro ⟨_, rfl, frame⟩ word found ⟨_, known⟩ unnamed present alive named
  | delivered _ found done =>
      refine reachable.update fun subscription present => ?_
      cases found.symm.trans present
      exact (Subscription.keeps_of_deliver done).2
  | @received _ isCancelled subscription found =>
      refine reachable.update fun _ present => ?_
      cases found.symm.trans present
      exact (subscription.takes_receive isCancelled).keeps.2
  | released => exact reachable.update fun _ _ => rfl
  | shut => exact reachable.update fun _ _ => rfl
  | unsubscribed _ _ present _ known =>
      refine Reachable.without ?_ ?_ present known
      · exact reachable.update fun _ _ => rfl
      · exact consistent.update fun _ _ => ⟨rfl, rfl⟩
  | removed found known => exact reachable.without consistent found known
  | closed _ found known =>
      exact (reachable.without consistent found known).update fun _ _ => Subscription.serverId_fail
  | failed =>
      intro _ _ _ _ live
      exact (not_live_failAll live).elim

end Reachable

/-! ### Isolation -/

/-- Nothing has happened to a live subscription: it is known by its request, its queues are as
they were, and it is found under the id that the server gave it. -/
structure Undisturbed (after : Session α) (place : Nat) (subscription : Subscription α) :
    Prop where
  known : after.byRequest.find? subscription.requestId = some place
  same : after.subscriptions[place]? = some subscription
  reached : ∀ serverId, subscription.serverId = some serverId →
    after.bySubscription.find? serverId = some place

/-- Live subscriptions are isolated from each other in a run. -/
structure Isolated (settings : ClientSettings) (session : Session α)
    (operations : List (Operation α)) : Prop where
  /-- What concerns one of them does not disturb another one. -/
  apart : ∀ moment ∈ session.history settings operations,
    ∀ place other subscription neighbour, place ≠ other →
    moment.session.subscriptions[place]? = some subscription → moment.session.Live place →
    moment.session.subscriptions[other]? = some neighbour → moment.session.Live other →
    moment.operation.subject? moment.session = some subscription.requestId →
    Undisturbed (moment.after settings) other neighbour
  reachable : ∀ moment ∈ session.history settings operations, (moment.after settings).Reachable

/-- **What concerns one subscription leaves the request and the queues of another one alone.** -/
theorem Consistent.spared (consistent : session.Consistent) (settings : ClientSettings)
    (apart : place ≠ other) (found : session.subscriptions[place]? = some subscription)
    (live : session.Live place) (present : session.subscriptions[other]? = some neighbour)
    (alive : session.Live other)
    (about : operation.subject? session = some subscription.requestId) :
    (session.perform settings operation).1.byRequest.find? neighbour.requestId = some other ∧
      (session.perform settings operation).1.subscriptions[other]? = some neighbour := by
  have step := consistent.step_perform settings operation
  -- Request ids may repeat in a session, but not among those that are live.
  have elsewhere : subscription.requestId ≠ neighbour.requestId := by
    intro same
    have here := (consistent.live_iff found).mp live
    have there := (consistent.live_iff present).mp alive
    rw [same, there] at here
    exact apart (Option.some.inj here).symm
  obtain ⟨next, still, turn⟩ := consistent.turn step present
  obtain ⟨rfl, lives⟩ := turn.eq_of_subject consistent present about elsewhere
  exact ⟨((consistent.step step).live_iff still).mp (lives.mpr alive), still⟩

/-- As long as no id is repeated, everybody is reachable. -/
theorem Consistent.reachable_of_mem_history (consistent : session.Consistent)
    (reachable : session.Reachable) {operations : List (Operation α)}
    (unrepeated : ∀ moment ∈ session.history settings operations,
      ¬ moment.session.Repeats moment.operation) :
    ∀ moment ∈ session.history settings operations,
      moment.session.Consistent ∧ (moment.after settings).Reachable := by
  induction operations generalizing session with
  | nil =>
      intro _ member
      cases member
  | cons operation later ih =>
      intro moment member
      have step := consistent.step_perform settings operation
      have next := reachable.step consistent step (unrepeated _ List.mem_cons_self)
      rcases List.mem_cons.mp member with rfl | behind
      · exact ⟨consistent, next⟩
      · refine ih (consistent.step step) next (fun other later => ?_) moment behind
        exact unrepeated other (List.mem_cons_of_mem _ later)

/-- An id that is given twice is not found for the first one any more. -/
theorem Repeats.not_undisturbed (repeats : session.Repeats operation)
    (consistent : session.Consistent) (settings : ClientSettings) :
    ∃ place other subscription neighbour, place ≠ other ∧
      session.subscriptions[place]? = some subscription ∧ session.Live place ∧
      session.subscriptions[other]? = some neighbour ∧ session.Live other ∧
      operation.subject? session = some subscription.requestId ∧
      ¬ Undisturbed (session.perform settings operation).1 other neighbour := by
  obtain @⟨place, other, subscription, neighbour, _, serverId, answers, word, found, live, unnamed,
    present, alive, named⟩ := repeats
  have apart : place ≠ other := by
    intro same
    subst same
    cases found.symm.trans present
    cases unnamed.symm.trans named
  refine ⟨place, other, subscription, neighbour, apart, found, live, present, alive,
    answers.subject?_eq, fun undisturbed => ?_⟩
  have known := (consistent.live_iff found).mp live
  have done : session.perform settings operation = (session.accept serverId place, none) := by
    rw [answers.perform_eq, acknowledge_of_known found known word, unnamed]
    rfl
  have reached := undisturbed.reached serverId named
  rw [done, find?_bySubscription_accept, if_pos rfl] at reached
  exact apart (Option.some.inj reached)

/-- No id is given again where the neighbours are isolated. -/
theorem Isolated.unrepeated {ids : IdSource} {operations : List (Operation α)}
    (isolated : Isolated settings (start ids) operations) {moment : Moment α}
    (member : moment ∈ (start ids).history settings operations) :
    ¬ moment.session.Repeats moment.operation := by
  intro repeats
  obtain ⟨before, _, _, reached⟩ := exists_of_mem_history member
  have consistent : moment.session.Consistent := reached ▸ (consistent_start ids).run before
  obtain ⟨place, other, subscription, neighbour, apart, found, live, present, alive, about,
    disturbed⟩ := repeats.not_undisturbed consistent settings
  exact disturbed (isolated.apart moment member place other subscription neighbour apart found
    live present alive about)

/-- **Live subscriptions are isolated from each other** exactly when the server never gives the
id of one of them to another one. -/
theorem isolated_iff {settings : ClientSettings} {ids : IdSource}
    {operations : List (Operation α)} :
    Isolated settings (start ids) operations ↔
      ∀ moment ∈ (start ids).history settings operations,
        ¬ moment.session.Repeats moment.operation := by
  constructor
  · exact fun isolated _ member => isolated.unrepeated member
  · intro unrepeated
    have empty : (start ids : Session α).Reachable := by
      intro _ _ _ found
      cases found
    have states := (consistent_start ids).reachable_of_mem_history empty unrepeated
    refine ⟨?apart, fun moment member => (states moment member).2⟩
    intro moment member place other subscription neighbour apart found live present alive about
    obtain ⟨consistent, reachable⟩ := states moment member
    obtain ⟨known, same⟩ :=
      consistent.spared settings apart found live present alive about
    exact ⟨known, same, fun serverId named =>
      reachable other neighbour serverId same ⟨_, known⟩ named⟩

/-- The server admits two requests as subscription 7. -/
def repeatedOperations : List (Operation UInt64) :=
  [.register slots, .register slots, .dispatch admission,
    .dispatch (Utf8.encode "\x7b\"id\":1,\"result\":7\x7d")]

/-- Both subscriptions are live, and the later one is listed. -/
def sharingSession : Session UInt64 where
  ids := { countingIds with used := 2 }
  subscriptions := [admittedSubscription, { admittedSubscription with requestId := 1 }]
  byRequest := ⟨[(1, 1), (0, 0)]⟩
  bySubscription := ⟨[(7, 1)]⟩
  cancelled := .empty

private theorem run_repeatedOperations :
    (start countingIds).run tightSettings repeatedOperations = sharingSession := by
  rw [repeatedOperations, run_cons, perform_register_of_free rfl, run_cons,
    perform_register_of_free rfl]
  rfl

/-- When the later one is ended, the earlier one is cut off. -/
theorem not_isolated_slots :
    ¬ Isolated tightSettings (start countingIds) (repeatedOperations ++ [.unsubscribe 1]) := by
  intro isolated
  have last : (⟨sharingSession, .unsubscribe 1⟩ : Moment UInt64) ∈
      (start countingIds).history tightSettings (repeatedOperations ++ [.unsubscribe 1]) := by
    rw [history_concat, run_repeatedOperations]
    exact List.mem_append_right _ (List.mem_singleton_self _)
  have undisturbed := isolated.apart _ last 1 0 _ _ (by decide) rfl ⟨1, rfl⟩ rfl ⟨0, rfl⟩ rfl
  have reached := undisturbed.reached 7 rfl
  cases reached

end LedgerClient.Session
