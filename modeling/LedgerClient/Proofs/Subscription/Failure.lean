import LedgerClient.Proofs.Settings.PingPeriod
import LedgerClient.Proofs.Subscription.Delivery

/-! # How subscriptions end

A subscription that is live has not been told its end, so there is room for the reason when
something ends it (`LedgerClient.Session.Untold`). It is told once, because it is in no table
afterwards. Without the holder's own doing, and unless its request could not be written, it
leaves the tables in no other way, as long as request ids do not repeat
(`LedgerClient.Session.nodup_requestIds_run`). The holder hears the reason ahead of all that
waits, and nothing after it (`LedgerClient.Session.endsOnce_run`).
-/

namespace LedgerClient.Session

variable {α : Type} {settings : ClientSettings} {session after : Session α}
  {operation : Operation α} {place : Nat} {subscription next : Subscription α}
  {reason : SubscriptionError}

/-! ### Request ids -/

/-- The request ids of all subscriptions, the oldest one first. -/
def requestIds (session : Session α) : List UInt64 := session.subscriptions.map (·.requestId)

/-- A change that keeps the request of one subscription keeps all requests. -/
theorem requestIds_update (found : session.subscriptions[place]? = some subscription)
    {change : Subscription α → Subscription α}
    (same : (change subscription).requestId = subscription.requestId) :
    (session.update place change).requestIds = session.requestIds := by
  refine List.ext_getElem? fun other => ?_
  rw [requestIds, requestIds, List.getElem?_map, List.getElem?_map]
  by_cases here : other = place
  · rw [here, getElem?_update_self found, found]
    exact congrArg some same
  · rw [getElem?_update_of_ne here]

/-- An operation draws ids and puts none back. -/
theorem Step.later (step : session.Step settings operation after) :
    session.ids.Later after.ids := by
  cases step with
  | rests later => exact later
  | registered drawn => exact IdSource.later_of_drawFree drawn
  | unsubscribed _ _ _ _ _ later => exact later
  | closed _ _ _ later => exact later
  | acknowledged | delivered | received | released | shut | removed => exact .refl _
  | failed =>
      rw [ids_failAll]
      exact .refl _

/-- Request ids stay as they are, but that a new one may be drawn. -/
theorem Consistent.requestIds_eq_or (consistent : session.Consistent)
    (step : session.Step settings operation after) :
    after.requestIds = session.requestIds ∨
      ∃ id, session.ids.drawFree session.byRequest.contains = some (id, after.ids) ∧
        after.requestIds = session.requestIds ++ [id] := by
  by_cases asks : ∃ topic, operation = .register topic
  · obtain ⟨topic, rfl⟩ := asks
    cases step with
    | rests => exact .inl rfl
    | registered drawn => exact .inr ⟨_, drawn, List.map_append⟩
    | delivered reaches =>
        obtain ⟨_, _, ⟨⟩, _⟩ := reaches
    | closed closes =>
        cases closes with
        | undelivered reaches =>
            obtain ⟨_, _, ⟨⟩, _⟩ := reaches
  · left
    -- No turn changes the request id of a subscription, and only asking adds one.
    refine List.ext_getElem? fun place => ?_
    rw [requestIds, requestIds, List.getElem?_map, List.getElem?_map]
    cases before : session.subscriptions[place]? with
    | some subscription =>
        obtain ⟨next, present, turn⟩ := consistent.turn step before
        rw [present]
        exact congrArg some turn.keeps.requestId
    | none =>
        cases found : after.subscriptions[place]? with
        | none => rfl
        | some next =>
            obtain ⟨topic, _, same, _⟩ := consistent.added step before found
            exact (asks ⟨topic, same⟩).elim

private theorem drawnInOrder_run (settings : ClientSettings) (ids : IdSource)
    (operations : List (Operation α)) :
    ((start ids).run settings operations).ids.DrawnInOrder
      ((start ids).run settings operations).requestIds := by
  refine (consistent_start ids).run_induction (fun session => session.ids.DrawnInOrder
    session.requestIds) (IdSource.drawnInOrder_nil ids) ?_ operations
  intro session operation after consistent step inOrder
  rcases consistent.requestIds_eq_or step with same | ⟨id, drawn, same⟩
  · rw [same]
    exact inOrder.later step.later
  · rw [same]
    exact inOrder.concat drawn

private theorem Consistent.later_run (consistent : session.Consistent)
    (operations : List (Operation α)) : session.ids.Later (session.run settings operations).ids :=
  consistent.run_induction (fun after => session.ids.Later after.ids) (.refl _)
    (fun _ _ _ _ step later => later.trans step.later) operations

private theorem distinct_ids_run {ids : IdSource} {before later : List (Operation α)}
    (distinct : ((start ids).run settings (before ++ later)).ids.Distinct) :
    ((start ids).run settings before).ids.Distinct := by
  have consistent : ((start ids).run settings before).Consistent :=
    (consistent_start ids).run before
  rw [run_append] at distinct
  exact distinct.of_later (consistent.later_run later)

/-- **Request ids do not repeat** if the ids drawn in the run do not. -/
theorem nodup_requestIds_run {ids : IdSource} {before later : List (Operation α)}
    (distinct : ((start ids).run settings (before ++ later)).ids.Distinct) :
    ((start ids).run settings before).requestIds.Nodup :=
  (drawnInOrder_run settings ids before).nodup (distinct_ids_run distinct)

/-- A subscription appears live, under a new request id. -/
theorem Consistent.opened (consistent : session.Consistent)
    (step : session.Step settings operation after)
    (absent : session.subscriptions[place]? = none)
    (found : after.subscriptions[place]? = some next) :
    after.Live place ∧ after.cancelled = session.cancelled ∧ next.serverId = none ∧
      after.requestIds = session.requestIds ++ [next.requestId] := by
  obtain ⟨topic, _, rfl, _⟩ := consistent.added step absent found
  cases step with
  | rests => cases absent.symm.trans found
  | registered =>
      obtain ⟨rfl, rfl⟩ := Sequence.eq_of_getElem?_concat absent found
      exact ⟨⟨_, find?_byRequest_add.trans (if_pos rfl)⟩, rfl, rfl, List.map_append⟩
  | delivered reaches =>
      obtain ⟨_, _, ⟨⟩, _⟩ := reaches
  | closed closes =>
      cases closes with
      | undelivered reaches =>
          obtain ⟨_, _, ⟨⟩, _⟩ := reaches

/-- Where requests are distinct, a request is made at one place. -/
theorem place_eq {other : Nat} {neighbour : Subscription α} (distinct : session.requestIds.Nodup)
    (found : session.subscriptions[place]? = some subscription)
    (present : session.subscriptions[other]? = some neighbour)
    (same : subscription.requestId = neighbour.requestId) : place = other := by
  have known : session.requestIds[place]? = session.requestIds[other]? := by
    rw [requestIds, List.getElem?_map, List.getElem?_map, found, present]
    exact congrArg some same
  refine (List.getElem?_inj ?_ distinct).mp known
  rw [requestIds, List.length_map]
  exact (List.getElem?_eq_some_iff.mp found).1

/-! ### Before the end -/

/-- Live subscriptions have not been told their end. -/
def Untold (session : Session α) : Prop :=
  ∀ (place : Nat) (subscription : Subscription α),
    session.subscriptions[place]? = some subscription → session.Live place →
    subscription.errors.items = [] ∧ subscription.isClosed = false

/-- What leaves a subscription live tells it no error. -/
theorem Turn.untold (turn : session.Turn after place subscription operation next)
    (still : after.Live place)
    (untold : subscription.errors.items = [] ∧ subscription.isClosed = false) :
    next.errors.items = [] ∧ next.isClosed = false := by
  cases turn with
  | rests | admitted | released => exact untold
  | delivered _ done =>
      obtain ⟨_, rfl⟩ := Subscription.exists_results_of_deliver done
      exact untold
  | received => exact (subscription.takes_receive _).untold untold.1 untold.2
  | unsubscribed _ gone | removed _ gone | displaced _ _ _ _ gone | failed _ _ gone =>
      exact (gone still).elim

private theorem untold_run (settings : ClientSettings) (ids : IdSource)
    (operations : List (Operation α)) : ((start ids).run settings operations).Untold := by
  refine (consistent_start ids).run_induction Untold ?start ?step operations
  case start =>
    intro place subscription found
    cases found
  case step =>
    intro session operation after consistent step untold place next found still
    cases before : session.subscriptions[place]? with
    | none =>
        obtain ⟨topic, id, _, rfl⟩ := consistent.added step before found
        exact ⟨rfl, rfl⟩
    | some subscription =>
        obtain ⟨_, present, turn⟩ := consistent.turn step before
        rw [found] at present
        cases present
        exact turn.untold still (untold place subscription before (turn.live_of_live still))

/-! ### After the end -/

/-- Receiving concerns the subscription at its place. -/
theorem receive_eq (found : session.subscriptions[place]? = some subscription)
    (isCancelled : Bool) :
    (session.receive place isCancelled).1 = (subscription.receive isCancelled).1 ∧
      (session.receive place isCancelled).2.subscriptions[place]? =
        some (subscription.receive isCancelled).2 := by
  simp only [receive, found, true_and]
  exact getElem?_update_self found

namespace Turn

variable (turn : session.Turn after place subscription operation next)

include turn

/-- What is closed stays closed. -/
theorem isClosed_eq (closed : subscription.isClosed = true) : next.isClosed = true := by
  cases turn with
  | rests | admitted | released | removed | displaced => exact closed
  | unsubscribed => rfl
  | delivered _ done =>
      obtain ⟨_, rfl⟩ := Subscription.exists_results_of_deliver done
      exact closed
  | received =>
      rw [((subscription.takes_receive _).eq_of_closed closed).2]
      exact closed
  | failed =>
      obtain ⟨_, _, same⟩ := subscription.exists_fail _
      exact same ▸ closed

/-- A reason waits until the holder ends the subscription or takes the reason out. -/
theorem waits (gone : ¬ session.Live place) (unended : operation ≠ .unsubscribe place)
    (untaken : operation ≠ .receive place false)
    (waits : subscription.errors.items = [reason] ∧ subscription.isClosed = false) :
    next.errors.items = [reason] ∧ next.isClosed = false := by
  cases turn with
  | rests | admitted | released => exact waits
  | delivered _ done =>
      obtain ⟨_, rfl⟩ := Subscription.exists_results_of_deliver done
      exact waits
  | @received isCancelled =>
      cases isCancelled with
      | true =>
          rw [(subscription.takes_receive true).eq_of_cancelled]
          exact waits
      | false => exact (untaken rfl).elim
  | unsubscribed => exact (unended rfl).elim
  | removed live | displaced _ _ _ live | failed _ live => exact (gone live).elim

/-- Without a reason no error is added. -/
theorem errors_suffix (spared : ∀ reason, ¬ session.Fails operation place reason) :
    next.errors.items <:+ subscription.errors.items := by
  cases turn with
  | rests | admitted | released | unsubscribed | removed | displaced => exact List.suffix_refl _
  | delivered _ done =>
      obtain ⟨_, rfl⟩ := Subscription.exists_results_of_deliver done
      exact List.suffix_refl _
  | received => exact (subscription.takes_receive _).errors_suffix
  | failed fails => exact (spared _ fails).elim

end Turn

/-- Nothing but a frame and the client itself fails a subscription. -/
theorem Fails.absurd (fails : session.Fails operation place reason)
    (undispatched : ∀ bytes, operation ≠ .dispatch bytes)
    (unclosed : ∀ requestId, operation ≠ .close requestId reason)
    (lasts : operation ≠ .failAll reason) : False := by
  rcases fails with closes | ⟨ends, _⟩
  · cases closes with
    | undelivered reaches =>
        obtain ⟨bytes, _, same, _⟩ := reaches
        exact undispatched bytes same
    | rejected => exact undispatched _ rfl
    | closed => exact unclosed _ rfl
  · exact lasts ends

/-- A frame fails a subscription for a dead peer only if its own decoder gives that reason. -/
theorem Fails.decode_of_pongTimeout {bytes : List UInt8} {limit : Duration}
    (fails : session.Fails (.dispatch bytes) place (.pongTimeout limit))
    (found : session.subscriptions[place]? = some subscription) :
    ∃ result, subscription.decode result = .error (.pongTimeout limit) := by
  rcases fails with closes | ⟨impossible, _⟩
  · cases closes with
    | @undelivered _ _ result _ _ _ present refused =>
        cases found.symm.trans present
        have puts := subscription.puts_deliver result
        rw [refused] at puts
        cases puts with
        | unreadable read => exact ⟨result, read⟩
  · cases impossible

/-- **Errors wait until they are taken out**, and an operation puts one in only if it fails the
subscription. -/
theorem Consistent.errors_suffix_or_fails (consistent : session.Consistent)
    (settings : ClientSettings) (operation : Operation α)
    (found : session.subscriptions[place]? = some subscription) :
    ∃ next, (session.perform settings operation).1.subscriptions[place]? = some next ∧
      subscription.Keeps next ∧ (next.errors.items <:+ subscription.errors.items ∨
        ∃ reason, session.Fails operation place reason ∧ next = subscription.fail reason) := by
  obtain ⟨next, present, turn⟩ := consistent.turn (consistent.step_perform settings operation) found
  refine ⟨next, present, turn.keeps, ?_⟩
  by_cases fails : ∃ reason, session.Fails operation place reason
  · obtain ⟨reason, fails⟩ := fails
    obtain ⟨told, _⟩ := consistent.perform_of_fails settings found fails
    exact .inr ⟨reason, fails, Option.some.inj (present.symm.trans told)⟩
  · exact .inl (turn.errors_suffix (not_exists.mp fails))

/-- The holder of the subscription at a place neither ends it nor takes anything out, unless
giving up at once. -/
def Waits (place : Nat) (operations : List (Operation α)) : Prop :=
  ∀ operation ∈ operations, operation ≠ .unsubscribe place ∧ operation ≠ .receive place false

/-- The holder of the subscription at a place hears a reason next, and nothing after it. -/
structure Tells (settings : ClientSettings) (session : Session α) (place : Nat)
    (reason : SubscriptionError) : Prop where
  next : ∀ operations, Waits place operations →
    ((session.run settings operations).receive place false).1 = .failed reason
  later : ∀ operations rest isCancelled, Waits place operations →
    ((session.run settings (operations ++ .receive place false :: rest)).receive place
      isCancelled).1 = .failed .closed

namespace Consistent

variable (consistent : session.Consistent)
  (found : session.subscriptions[place]? = some subscription)

include consistent found

private theorem exists_closed_run (closed : subscription.isClosed = true)
    (operations : List (Operation α)) :
    ∃ last, (session.run settings operations).subscriptions[place]? = some last ∧
      last.isClosed = true := by
  induction operations generalizing session subscription with
  | nil => exact ⟨subscription, found, closed⟩
  | cons operation later ih =>
      have step := consistent.step_perform settings operation
      obtain ⟨next, present, turn⟩ := consistent.turn step found
      exact ih (consistent.step step) present (turn.isClosed_eq closed)

/-- An error waits for as long as nothing is received. -/
theorem exists_waiting_run (settings : ClientSettings) (gone : ¬ session.Live place)
    (waits : subscription.errors.items = [reason] ∧ subscription.isClosed = false)
    {operations : List (Operation α)} (patient : Waits place operations) :
    ∃ last, (session.run settings operations).subscriptions[place]? = some last ∧
      last.errors.items = [reason] ∧ last.isClosed = false := by
  induction operations generalizing session subscription with
  | nil => exact ⟨subscription, found, waits⟩
  | cons operation later ih =>
      have step := consistent.step_perform settings operation
      obtain ⟨next, present, turn⟩ := consistent.turn step found
      obtain ⟨unended, untaken⟩ := patient operation List.mem_cons_self
      exact ih (consistent.step step) present (fun still => gone (turn.live_of_live still))
        (turn.waits gone unended untaken waits)
        fun other member => patient other (List.mem_cons_of_mem _ member)

/-- **A reason that waits is heard next, and nothing after it.** -/
theorem tells (gone : ¬ session.Live place)
    (waits : subscription.errors.items = [reason] ∧ subscription.isClosed = false) :
    Tells settings session place reason := by
  have heard : ∀ operations : List (Operation α), Waits place operations →
      ∃ last, (session.run settings operations).subscriptions[place]? = some last ∧
        (last.receive false).1 = .failed reason ∧ (last.receive false).2.isClosed = true := by
    intro operations patient
    obtain ⟨last, reached, waiting, unseen⟩ :=
      consistent.exists_waiting_run found settings gone waits patient
    exact ⟨last, reached, (last.takes_receive false).told_of_waiting waiting unseen⟩
  refine ⟨fun operations patient => ?_, fun operations rest isCancelled patient => ?_⟩
  · obtain ⟨last, reached, hears, _⟩ := heard operations patient
    exact (receive_eq reached false).1.trans hears
  · obtain ⟨last, reached, _, closed⟩ := heard operations patient
    have consistentThen : (session.run settings operations).Consistent := consistent.run operations
    obtain ⟨final, present, ended⟩ :=
      (consistentThen.step (consistentThen.step_perform settings (.receive place false))
        ).exists_closed_run (receive_eq reached false).2 closed rest
    rw [run_append, run_cons]
    exact (receive_eq present isCancelled).1.trans
      ((final.takes_receive isCancelled).eq_of_closed ended).1

end Consistent

/-- **A subscription that is closed is in no table**, and is told why unless it had left before. -/
theorem Consistent.perform_close (consistent : session.Consistent) (settings : ClientSettings)
    (found : session.subscriptions[place]? = some subscription) (reason : SubscriptionError) :
    ¬ (session.perform settings (.close subscription.requestId reason)).1.Live place ∧
      (session.Live place → (session.perform settings
        (.close subscription.requestId reason)).1.subscriptions[place]? =
          some (subscription.fail reason)) := by
  by_cases live : session.Live place
  · have known := (consistent.live_iff found).mp live
    obtain ⟨told, gone⟩ := consistent.perform_of_fails settings found (.inl (.closed known))
    exact ⟨gone, fun _ => told⟩
  · obtain ⟨_, _, turn⟩ := consistent.turn (consistent.step_perform settings _) found
    exact ⟨fun still => live (turn.live_of_live still), fun was => (live was).elim⟩

/-! ### Once and for a reason -/

/-- A moment fails the subscription at a place for a reason. -/
def Moment.Fails (moment : Moment α) (place : Nat) (reason : SubscriptionError) : Prop :=
  moment.session.Fails moment.operation place reason

/-- **Nobody is failed twice**: who has been failed is in no table any more. -/
theorem Consistent.pairwise_not_fails (consistent : session.Consistent) (place : Nat)
    (operations : List (Operation α)) :
    (session.history settings operations).Pairwise fun first second =>
      ∀ reason other, first.Fails place reason → ¬ second.Fails place other := by
  induction operations generalizing session with
  | nil => exact .nil
  | cons operation later ih =>
      have consistentNext := consistent.step (consistent.step_perform settings operation)
      refine List.pairwise_cons.mpr ⟨?_, ih consistentNext⟩
      intro second member reason other fails again
      -- The second failure finds the subscription live, which no run makes it again.
      obtain ⟨_, known⟩ := consistent.live_of_fails fails
      obtain ⟨subscription, found, _⟩ := consistent.requested _ _ known
      obtain ⟨told, gone⟩ := consistent.perform_of_fails settings found fails
      obtain ⟨between, _, _, reached⟩ := exists_of_mem_history member
      have consistentThen : second.session.Consistent := reached ▸ consistentNext.run between
      have live := consistentThen.live_of_fails again
      rw [reached] at live
      exact gone ((consistentNext.onward told between).live live)

/-- Every subscription of a run is told its end at most once, and for the reason for which it
leaves the tables. -/
structure EndsOnce (settings : ClientSettings) (session : Session α)
    (operations : List (Operation α)) : Prop where
  once : ∀ place, (session.history settings operations).Pairwise fun first second =>
    ∀ reason other, first.Fails place reason → ¬ second.Fails place other
  /-- The reason goes in as the only error, and is what the holder hears next. -/
  told : ∀ moment ∈ session.history settings operations, ∀ place reason subscription,
    moment.Fails place reason → moment.session.subscriptions[place]? = some subscription →
    (moment.after settings).subscriptions[place]? = some (subscription.fail reason) ∧
      (subscription.isHeld = true → (subscription.fail reason).errors.items = [reason] ∧
        Tells settings (moment.after settings) place reason)
  /-- Nothing else puts an error in. -/
  spared : ∀ moment ∈ session.history settings operations, ∀ place subscription next,
    (∀ reason, ¬ moment.Fails place reason) →
    moment.session.subscriptions[place]? = some subscription →
    (moment.after settings).subscriptions[place]? = some next →
    next.errors.items <:+ subscription.errors.items
  /-- Who leaves was ended by its own holder, could not be asked for, or is told why. -/
  leaves : ∀ moment ∈ session.history settings operations, ∀ place subscription,
    moment.session.subscriptions[place]? = some subscription →
    moment.session.Live place → ¬ (moment.after settings).Live place →
    moment.operation = .unsubscribe place ∨ moment.operation = .remove subscription.requestId ∨
      ∃ reason, moment.Fails place reason
  /-- The end of the session is told to all, and leaves the tables empty. -/
  ended : ∀ reason,
    let last := (session.run settings operations).failAll reason
    last.byRequest = .empty ∧ last.bySubscription = .empty ∧ last.cancelled = .empty ∧
      ∀ place subscription,
        (session.run settings operations).subscriptions[place]? = some subscription →
        (session.run settings operations).Live place →
        last.subscriptions[place]? = some (subscription.fail reason) ∧
          (subscription.isHeld = true → (subscription.fail reason).errors.items = [reason] ∧
            Tells settings last place reason)

/-- Who is failed in some state of a run hears the reason, if there is room for an error at all. -/
theorem tells_run (room : 0 < settings.errorCapacity.toNat) (ids : IdSource)
    (operations : List (Operation α))
    (found : ((start ids).run settings operations).subscriptions[place]? = some subscription)
    (fails : ((start ids).run settings operations).Fails operation place reason) :
    let last := (((start ids).run settings operations).perform settings operation).1
    last.subscriptions[place]? = some (subscription.fail reason) ∧
      (subscription.isHeld = true → (subscription.fail reason).errors.items = [reason] ∧
        Tells settings last place reason) := by
  have consistent : ((start ids).run settings operations).Consistent :=
    (consistent_start ids).run operations
  obtain ⟨told, gone⟩ := consistent.perform_of_fails settings found fails
  refine ⟨told, fun held => ?_⟩
  obtain ⟨_, _, keeps⟩ := followsTopics_run settings ids operations place subscription found
  obtain ⟨quiet, unseen⟩ := untold_run settings ids operations place subscription found
    (consistent.live_of_fails fails)
  have waiting : (subscription.fail reason).errors.items = [reason] :=
    Subscription.items_fail held quiet (keeps.errorCapacity ▸ room)
  refine ⟨waiting, ?_⟩
  refine (consistent.step (consistent.step_perform settings operation)).tells told gone
    ⟨waiting, ?_⟩
  obtain ⟨_, _, same⟩ := subscription.exists_fail reason
  rw [same]
  exact unseen

/-- **Every subscription is told its end once, and the telling is not lost**, if the settings
are sound and the ids drawn in the run do not repeat. -/
theorem endsOnce_run {settings : ClientSettings} {ids : IdSource}
    {operations : List (Operation α)} (valid : settings.validate = .ok ())
    (distinct : ((start ids).run settings operations).ids.Distinct) :
    EndsOnce settings (start ids) operations where
  once := fun place => (consistent_start ids).pairwise_not_fails place operations
  told := by
    rintro ⟨_, operation⟩ member place reason subscription fails found
    obtain ⟨before, _, _, rfl⟩ := exists_of_mem_history member
    exact tells_run (ClientSettings.validate_eq_ok_iff.mp valid).2.2.2.1 ids before found fails
  spared := by
    rintro ⟨_, operation⟩ member place subscription next spared found present
    obtain ⟨before, _, _, rfl⟩ := exists_of_mem_history member
    have consistent : ((start ids).run settings before).Consistent :=
      (consistent_start ids).run before
    obtain ⟨_, reached, turn⟩ :=
      consistent.turn (consistent.step_perform settings operation) found
    rw [Moment.after, reached] at present
    cases present
    exact turn.errors_suffix spared
  leaves := by
    rintro ⟨_, operation⟩ member place subscription found live gone
    obtain ⟨before, rest, split, rfl⟩ := exists_of_mem_history member
    have once : ((start ids).run settings before).requestIds.Nodup :=
      nodup_requestIds_run (split ▸ distinct)
    have consistent : ((start ids).run settings before).Consistent :=
      (consistent_start ids).run before
    obtain ⟨_, _, turn⟩ := consistent.turn (consistent.step_perform settings operation) found
    cases turn with
    | rests still | admitted _ _ still | delivered _ _ still | received still | released still =>
        exact (gone (still.mpr live)).elim
    | unsubscribed => exact .inl rfl
    | removed => exact .inr (.inl rfl)
    | failed fails => exact .inr (.inr ⟨_, fails⟩)
    | displaced elsewhere present same =>
        exact (elsewhere (place_eq once found present same)).elim
  ended := by
    intro reason
    refine ⟨rfl, rfl, rfl, fun place subscription found live => ?_⟩
    exact tells_run (ClientSettings.validate_eq_ok_iff.mp valid).2.2.2.1 ids operations found
      (.inr ⟨rfl, live⟩)

/-- One subscription has no room for its third result, and another is live when the connection
ends. -/
def lostOperations : List (Operation UInt64) :=
  [.register slots, .dispatch admission, .dispatch slotNotice, .dispatch slotNotice,
    .dispatch slotNotice, .register slots, .failAll .connectionClosed]

/-- A connection that is lost after a subscription was given up. -/
theorem endsOnce_slots : tightSettings.validate = .ok () ∧
    ((start countingIds).run tightSettings lostOperations).ids.Distinct ∧
      EndsOnce tightSettings (start countingIds) lostOperations := by
  have valid : tightSettings.validate = .ok () := rfl
  have drawn : ((start countingIds).run tightSettings lostOperations).ids =
      { countingIds with used := 3 } := by
    rw [lostOperations, run_cons, perform_register_of_free rfl, run_cons, run_cons, run_cons,
      run_cons, run_cons, perform_register_of_free rfl]
    rfl
  have distinct : ((start countingIds).run tightSettings lostOperations).ids.Distinct := by
    have words : ∀ first < 3, ∀ second < 3,
        IdSource.idOf false (countingIds.draws first) =
          IdSource.idOf false (countingIds.draws second) → first = second := by decide
    rw [drawn]
    exact fun first second one two same => words first one second two same
  exact ⟨valid, distinct, endsOnce_run valid distinct⟩

end LedgerClient.Session
