import LedgerClient.Proofs.Subscription.Farewell

/-! # Fresh request ids

The id of a new request is not the one of a live subscription. It may be the one of a request
that was given up, and that the server has not replied to
(`LedgerClient.Session.not_freshIds_stuck`): nothing is known by such a request any more
(`LedgerClient.Session.Unclaimed`). Its answer would then be taken for the answer to the new one.
So all ids are fresh, and every answer is credited to the subscription that waits for it, exactly
as long as the random words do not give the id of such a request again
(`LedgerClient.Session.freshIds_iff`).
-/

namespace LedgerClient.Session

variable {α : Type}

/-- A moment at which the subscription at a place is given up before the server has given its
id. -/
structure Moment.GivesUp (settings : ClientSettings) (place : Nat) (moment : Moment α) :
    Prop where
  byHolder : ∃ holder, moment.operation = .unsubscribe holder
  live : moment.session.Live place
  gone : ¬ (moment.after settings).Live place
  unnamed : ∃ subscription, moment.session.subscriptions[place]? = some subscription ∧
    subscription.serverId = none

/-- The server has not replied to a request since the subscription at a place was asked for. -/
def Unreplied (moments : List (Moment α)) (place : Nat) (requestId : UInt64) : Prop :=
  ∀ moment ∈ moments, moment.session.subscriptions[place]? ≠ none →
    ¬ moment.operation.Replies requestId

/-- A subscription that was given up, and of which the server's id is still to come. -/
structure Awaited (settings : ClientSettings) (moments : List (Moment α)) (place : Nat)
    (subscription : Subscription α) : Prop where
  givenUp : ∃ moment ∈ moments, moment.GivesUp settings place
  unreplied : Unreplied moments place subscription.requestId

/-- A subscription that the server may still give its id to. -/
structure Outstanding (settings : ClientSettings) (moments : List (Moment α))
    (session : Session α) (place : Nat) (subscription : Subscription α) : Prop where
  wanted : session.Live place ∨ ∃ moment ∈ moments, moment.GivesUp settings place
  unreplied : Unreplied moments place subscription.requestId

/-- After some moments, an operation makes no new request with the id of another one, and no
answer is taken for the answer to another request. -/
structure FreshStep (settings : ClientSettings) (moments : List (Moment α))
    (session : Session α) (operation : Operation α) : Prop where
  apart : ∀ topic request, operation = .register topic →
    (session.perform settings operation).2 = some request →
    ∀ (place : Nat) subscription, session.subscriptions[place]? = some subscription →
      session.Live place ∨ Awaited settings moments place subscription →
        request.id ≠ subscription.requestId
  credited : ∀ (place : Nat) subscription next,
    session.subscriptions[place]? = some subscription → subscription.serverId = none →
    (session.perform settings operation).1.subscriptions[place]? = some next →
    next.serverId ≠ none →
      (∃ result, operation.Answers subscription.requestId result) ∧
        ∀ (other : Nat) neighbour, session.subscriptions[other]? = some neighbour →
          Outstanding settings moments session other neighbour →
            neighbour.requestId = subscription.requestId → other = place

/-- Every operation of a run is such a one. -/
def FreshIds (settings : ClientSettings) (session : Session α) (operations : List (Operation α)) :
    Prop :=
  ∀ before operation later, operations = before ++ operation :: later →
    FreshStep settings (session.history settings before) (session.run settings before) operation

/-- Among the words that are drawn for a new request is one that gives the id of a request that
was given up. -/
def Redraws (settings : ClientSettings) (moments : List (Moment α)) (session : Session α)
    (operation : Operation α) : Prop :=
  (∃ topic, operation = .register topic) ∧
    ∃ (index place : Nat) (subscription : Subscription α), session.ids.used ≤ index ∧
      index < (session.perform settings operation).1.ids.used ∧
      session.subscriptions[place]? = some subscription ∧
      Awaited settings moments place subscription ∧
        IdSource.idOf session.ids.isShort (session.ids.draws index) = subscription.requestId

/-- Nothing is known by the request of a subscription that was given up. -/
def Unclaimed (settings : ClientSettings) (moments : List (Moment α)) (session : Session α) :
    Prop :=
  ∀ (place : Nat) subscription, session.subscriptions[place]? = some subscription →
    Awaited settings moments place subscription →
      session.byRequest.find? subscription.requestId = none

variable {settings : ClientSettings} {moments : List (Moment α)} {session after : Session α}
  {operation : Operation α} {place : Nat} {subscription next : Subscription α}
  {requestId : UInt64}

/-! ### New requests -/

/-- A new request has the first id that is free, if there is one. -/
theorem perform_register_cases (settings : ClientSettings) (session : Session α)
    (topic : Topic α) :
    session.perform settings (.register topic) = (session, none) ∨
      ∃ request, (session.perform settings (.register topic)).2 = some request ∧
        session.ids.drawFree session.byRequest.contains =
          some (request.id, (session.perform settings (.register topic)).1.ids) := by
  simp only [perform, register]
  cases session.ids.drawFree session.byRequest.contains with
  | none => exact .inl rfl
  | some drawn => exact .inr ⟨_, rfl, rfl⟩

/-! ### What is known by a request that was given up -/

/-- **Nothing is known by a request that was given up**, unless its id is drawn again. -/
theorem Unclaimed.step (unclaimed : Unclaimed settings moments session)
    (consistent : session.Consistent)
    (present : ∀ moment ∈ moments, ∀ place : Nat, moment.session.subscriptions[place]? ≠ none →
      session.subscriptions[place]? ≠ none)
    (undrawn : ¬ Redraws settings moments session operation) :
    Unclaimed settings (moments ++ [⟨session, operation⟩])
      (session.perform settings operation).1 := by
  intro place next found awaited
  obtain ⟨⟨moment, member, givesUp⟩, unreplied⟩ := awaited
  have step := consistent.step_perform settings operation
  have was : session.subscriptions[place]? ≠ none := by
    obtain ⟨_, there, _⟩ := givesUp.unnamed
    rcases List.mem_append.mp member with old | new
    · exact present moment old place (there ▸ Option.some_ne_none _)
    · cases List.mem_singleton.mp new
      exact there ▸ Option.some_ne_none _
  obtain ⟨subscription, before⟩ := Option.ne_none_iff_exists'.mp was
  have same : next.requestId = subscription.requestId := by
    obtain ⟨_, still, turn⟩ := consistent.turn step before
    cases found.symm.trans still
    exact turn.keeps.requestId
  rw [same] at unreplied ⊢
  by_contra claimed
  obtain ⟨other, known⟩ := Option.ne_none_iff_exists'.mp claimed
  -- It was given up before, and then only a new request could claim its id; or it is given up now.
  rcases List.mem_append.mp member with old | new
  · have awaited : Awaited settings moments place subscription :=
      ⟨⟨moment, old, givesUp⟩,
        fun moment member => unreplied moment (List.mem_append_left _ member)⟩
    rcases step.known_before known with early | ⟨asks, drawn, _⟩
    · cases early.symm.trans (unclaimed place subscription before awaited)
    · obtain ⟨_, drawnLast, later, _⟩ := IdSource.drawFree_skips drawn
      exact undrawn ⟨asks, _, place, subscription, Nat.le_sub_one_of_lt later,
        Nat.sub_one_lt_of_lt later, before, awaited, drawnLast.symm⟩
  · cases List.mem_singleton.mp new
    obtain ⟨holder, rfl⟩ := givesUp.byHolder
    have here := (consistent.live_iff before).mp givesUp.live
    rcases step.known_before known with early | ⟨⟨_, impossible⟩, _⟩
    · cases early.symm.trans here
      exact givesUp.gone ⟨_, known⟩
    · cases impossible

/-! ### To whom an answer is credited -/

/-- An answer changes nothing but the live subscription of its request. -/
theorem Consistent.getElem?_acknowledge (consistent : session.Consistent) {result : Json}
    (elsewhere : session.byRequest.find? requestId ≠ some place) :
    (session.acknowledge requestId result).1.subscriptions[place]? =
      session.subscriptions[place]? := by
  cases word : result.asWord? with
  | none =>
      rw [acknowledge, word]
  | some serverId =>
      cases known : session.byRequest.find? requestId with
      | none =>
          rw [acknowledge_of_unknown known word]
          cases session.cancelled.find? requestId with
          | none => rfl
          | some method => rfl
      | some other =>
          obtain ⟨subscription, found, rfl⟩ := consistent.requested _ _ known
          rw [known] at elsewhere
          rw [acknowledge_of_known found known word]
          split
          · rfl
          · exact getElem?_update_of_ne fun same => elsewhere (congrArg some same.symm)

private theorem Consistent.credited (consistent : session.Consistent)
    (found : session.subscriptions[place]? = some subscription)
    (unnamed : subscription.serverId = none)
    (present : (session.perform settings operation).1.subscriptions[place]? = some next)
    (named : next.serverId ≠ none) :
    (∃ result, operation.Answers subscription.requestId result) ∧
      session.byRequest.find? subscription.requestId = some place := by
  obtain ⟨_, still, turn⟩ := consistent.turn (consistent.step_perform settings operation) found
  cases present.symm.trans still
  by_cases answered : ∃ result, operation.Answers subscription.requestId result
  · refine ⟨answered, ?_⟩
    obtain ⟨result, answers⟩ := answered
    by_contra elsewhere
    rw [answers.perform_eq settings, consistent.getElem?_acknowledge elsewhere, found] at present
    cases present
    exact named unnamed
  · rw [not_exists] at answered
    exact (named ((turn.serverId_eq_of_unanswered answered).trans unnamed)).elim

/-- **A step is fresh** unless it draws the id of a request that was given up. -/
theorem Unclaimed.freshStep_iff (unclaimed : Unclaimed settings moments session)
    (consistent : session.Consistent) :
    FreshStep settings moments session operation ↔
      ¬ Redraws settings moments session operation := by
  constructor
  · intro fresh redraws
    obtain ⟨⟨topic, rfl⟩, index, place, subscription, reached, before, found, awaited, same⟩ :=
      redraws
    rcases perform_register_cases settings session topic with none | ⟨request, sent, drawn⟩
    · rw [none] at before
      exact absurd before (Nat.not_lt.mpr reached)
    · obtain ⟨_, last, _, skipped⟩ := IdSource.drawFree_skips drawn
      -- The id of a request that was given up is never skipped, so it is the one that is picked.
      rcases Nat.eq_or_lt_of_le (Nat.succ_le_of_lt before) with final | earlier
      · refine fresh.apart topic request rfl sent place subscription found (.inr awaited) ?_
        rw [last, ← final, ← same]
        rfl
      · have taken := skipped index reached earlier
        rw [same, IdTable.contains, unclaimed place subscription found awaited] at taken
        cases taken
  · intro undrawn
    refine ⟨?apart, ?credited⟩
    case apart =>
      rintro topic request rfl sent place subscription found wanted same
      rcases perform_register_cases settings session topic with none | ⟨_, asked, drawn⟩
      · rw [none] at sent
        cases sent
      · cases sent.symm.trans asked
        obtain ⟨free, last, later, _⟩ := IdSource.drawFree_skips drawn
        rcases wanted with live | awaited
        · have known := (consistent.live_iff found).mp live
          rw [same, IdTable.contains, known] at free
          cases free
        · exact undrawn ⟨⟨topic, rfl⟩, _, place, subscription, Nat.le_sub_one_of_lt later,
            Nat.sub_one_lt_of_lt later, found, awaited, last.symm.trans same⟩
    case credited =>
      intro place subscription next found unnamed present named
      obtain ⟨answered, known⟩ := consistent.credited found unnamed present named
      refine ⟨answered, fun other neighbour there outstanding same => ?_⟩
      obtain ⟨live | givenUp, unreplied⟩ := outstanding
      · have alsoKnown := (consistent.live_iff there).mp live
        rw [same, known] at alsoKnown
        exact (Option.some.inj alsoKnown).symm
      · have unknown := unclaimed other neighbour there ⟨givenUp, unreplied⟩
        rw [same, known] at unknown
        cases unknown

/-! ### A whole run -/

private theorem present_of_mem_history {ids : IdSource} {operations : List (Operation α)}
    {moment : Moment α} (member : moment ∈ (start ids).history settings operations)
    (there : moment.session.subscriptions[place]? ≠ none) :
    ((start ids).run settings operations).subscriptions[place]? ≠ none := by
  obtain ⟨before, later, rfl, reached⟩ := exists_of_mem_history member
  obtain ⟨subscription, found⟩ := Option.ne_none_iff_exists'.mp (reached ▸ there)
  obtain ⟨_, _, onward⟩ := onward_run settings ids before (moment.operation :: later)
  obtain ⟨⟨last, still, _⟩, _⟩ := onward place subscription found
  rw [run_append, still]
  exact Option.some_ne_none last

private theorem unclaimed_run {ids : IdSource} {operations before later : List (Operation α)}
    (undrawn : ∀ before operation later, operations = before ++ operation :: later →
      Unclaimed settings ((start ids).history settings before) ((start ids).run settings before) →
      ¬ Redraws settings ((start ids).history settings before)
        ((start ids).run settings before) operation)
    (split : operations = before ++ later) :
    Unclaimed settings ((start ids).history settings before)
      ((start ids).run settings before) := by
  -- The words are looked at one operation after the other, each while nothing is claimed yet.
  induction before using List.reverseRecOn generalizing later with
  | nil =>
      intro _ _ found
      cases found
  | append_singleton before operation ih =>
      rw [List.append_assoc] at split
      have unclaimed := ih split
      rw [history_concat, run_concat]
      exact unclaimed.step ((consistent_start ids).run before)
        (fun _ member _ there => present_of_mem_history member there)
        (undrawn before operation later split unclaimed)

/-- **All request ids are fresh, and every answer is credited to the subscription that waits for
it**, exactly as long as no id of a request that was given up is drawn again. -/
theorem freshIds_iff {settings : ClientSettings} {ids : IdSource}
    {operations : List (Operation α)} :
    FreshIds settings (start ids) operations ↔
      ∀ before operation later, operations = before ++ operation :: later →
        ¬ Redraws settings ((start ids).history settings before)
          ((start ids).run settings before) operation := by
  have step {before : List (Operation α)} {operation : Operation α}
      (unclaimed : Unclaimed settings ((start ids).history settings before)
        ((start ids).run settings before)) :
      FreshStep settings ((start ids).history settings before) ((start ids).run settings before)
        operation ↔ _ := unclaimed.freshStep_iff ((consistent_start ids).run before)
  constructor
  · intro fresh before operation later split
    have unclaimed := unclaimed_run
      (fun before operation later split unclaimed =>
        (step unclaimed).mp (fresh before operation later split)) split
    exact (step unclaimed).mp (fresh before operation later split)
  · intro undrawn before operation later split
    have unclaimed := unclaimed_run
      (fun before operation later split _ => undrawn before operation later split) split
    exact (step unclaimed).mpr (undrawn before operation later split)

private theorem unreplied_of_no_frame {operations : List (Operation α)}
    (silent : ∀ bytes, .dispatch bytes ∉ operations) :
    Unreplied (session.history settings operations) place requestId := by
  intro moment member _ replies
  obtain ⟨before, later, rfl, _⟩ := exists_of_mem_history member
  rcases replies with ⟨_, bytes, same, _⟩ | ⟨bytes, _, _, same, _⟩
  · exact silent bytes (same ▸ List.mem_append_right before List.mem_cons_self)
  · exact silent bytes (same ▸ List.mem_append_right before List.mem_cons_self)

/-- Ids of which every one is the same. -/
def stuckIds : IdSource := ⟨false, fun _ => 0, 0⟩

/-- One subscription is given up before it is admitted, and another one is asked for. -/
def reusingOperations : List (Operation UInt64) :=
  [.register slots, .unsubscribe 0, .register slots]

/-- Both requests have the same id. -/
def reusingSession : Session UInt64 where
  ids := { stuckIds with used := 2 }
  subscriptions := [{ Subscription.ofTopic slots 0 2 1 with isClosed := true },
    Subscription.ofTopic slots 0 2 1]
  byRequest := ⟨[(0, 1)]⟩
  bySubscription := .empty
  cancelled := ⟨[(0, "slotUnsubscribe")]⟩

private theorem run_reusingOperations :
    (start stuckIds).run tightSettings reusingOperations = reusingSession := by
  rw [reusingOperations, run_cons, perform_register_of_free rfl, run_cons, run_cons,
    perform_register_of_free rfl]
  rfl

private theorem givesUp_reusing : Moment.GivesUp tightSettings 0
    ⟨(start stuckIds).run tightSettings [.register slots], .unsubscribe 0⟩ := by
  rw [run_cons, perform_register_of_free rfl]
  refine ⟨⟨0, rfl⟩, ⟨0, rfl⟩, ?_, ⟨Subscription.ofTopic slots 0 2 1, rfl, rfl⟩⟩
  rintro ⟨_, ⟨⟩⟩

/-- The answer to the first request is credited to the second one. -/
theorem not_freshIds_stuck :
    ¬ FreshIds tightSettings (start stuckIds) (reusingOperations ++ [.dispatch admission]) := by
  intro fresh
  have step := fresh reusingOperations (.dispatch admission) [] rfl
  rw [run_reusingOperations] at step
  have first : Outstanding tightSettings
      ((start stuckIds).history tightSettings reusingOperations) reusingSession 0
      { Subscription.ofTopic slots 0 2 1 with isClosed := true } := by
    refine ⟨.inr ⟨_, ?_, givesUp_reusing⟩, unreplied_of_no_frame ?_⟩
    · exact List.mem_cons_of_mem _ List.mem_cons_self
    · simp [reusingOperations]
  obtain ⟨_, only⟩ := step.credited 1 _ admittedSubscription rfl rfl rfl (by decide)
  cases only 0 _ rfl first rfl

end LedgerClient.Session
