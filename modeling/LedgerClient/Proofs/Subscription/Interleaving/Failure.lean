import LedgerClient.Proofs.Subscription.Interleaving

/-! # How subscriptions end, whatever comes in between

A failure is looked up with one lock and its subscription is closed with another, and so it is
with a result that cannot be delivered. If its holder or the end of the session is quicker, what
is left to be done closes nothing. So here too every subscription is told its end once, and for
the reason for which it leaves the tables (`LedgerClient.FrameReader.endsOnce_interleaved`).
-/

namespace LedgerClient.FrameReader

variable {α : Type}

/-- A moment fails the subscription at a place for a reason. -/
def Moment.Fails (moment : Moment α) (place : Nat) (reason : SubscriptionError) : Prop :=
  ∃ operation, moment.operation? = some operation ∧
    moment.reader.session.Fails operation place reason

/-- At a moment there comes to be a reason for which the subscription of a request is closed. -/
inductive Moment.Causes (moment : Moment α) (requestId : UInt64) : SubscriptionError → Prop
  /-- The server reports a failure of the request. -/
  | failed {code message}
      (frame : moment.frame? = some (.failure (some requestId) code message)) :
      Causes moment requestId (.rpc code message)
  /-- A result cannot be delivered. -/
  | refused {place result subscription reason} (delivers : moment.Delivers place result)
      (found : moment.reader.session.subscriptions[place]? = some subscription)
      (same : subscription.requestId = requestId)
      (refused : subscription.deliver result = .error reason) : Causes moment requestId reason

/-- The holder of the subscription at a place neither ends it nor takes anything out, unless
giving up at once. -/
def Waits (place : Nat) (strides : List (Stride α)) : Prop :=
  ∀ stride ∈ strides,
    stride ≠ .does (.unsubscribe place) ∧ stride ≠ .does (.receive place false)

/-- The holder of the subscription at a place hears a reason next, and nothing after it. -/
structure Tells (settings : ClientSettings) (reader : FrameReader α) (place : Nat)
    (reason : SubscriptionError) : Prop where
  next : ∀ strides, Waits place strides →
    ((reader.run settings strides).session.receive place false).1 = .failed reason
  later : ∀ strides rest isCancelled, Waits place strides →
    ((reader.run settings (strides ++ .does (.receive place false) :: rest)).session.receive place
      isCancelled).1 = .failed .closed

variable {settings : ClientSettings} {moment : Moment α} {reader : FrameReader α}
  {session : Session α} {place : Nat} {subscription next : Subscription α}
  {reason : SubscriptionError} {strides : List (Stride α)}

namespace Turn

variable (turn : Turn moment session place subscription next)

include turn

/-- What is closed stays closed. -/
theorem isClosed_eq (closed : subscription.isClosed = true) : next.isClosed = true := by
  cases turn with
  | performs _ turn => exact turn.isClosed_eq closed
  | delivered _ done =>
      obtain ⟨_, rfl⟩ := Subscription.exists_results_of_deliver done
      exact closed
  | rests => exact closed

/-- A reason waits until the holder ends the subscription or takes the reason out. -/
theorem waits (gone : ¬ moment.reader.session.Live place)
    (unended : moment.stride ≠ .does (.unsubscribe place))
    (untaken : moment.stride ≠ .does (.receive place false))
    (waits : subscription.errors.items = [reason] ∧ subscription.isClosed = false) :
    next.errors.items = [reason] ∧ next.isClosed = false := by
  cases turn with
  | performs does turn =>
      refine turn.waits gone ?_ ?_ waits
      · rintro rfl
        exact unended (Moment.stride_of_unclosed does fun _ _ same => by cases same)
      · rintro rfl
        exact untaken (Moment.stride_of_unclosed does fun _ _ same => by cases same)
  | delivered _ done =>
      obtain ⟨_, rfl⟩ := Subscription.exists_results_of_deliver done
      exact waits
  | rests => exact waits

/-- Without a reason no error is added. -/
theorem errors_suffix (spared : ∀ reason, ¬ moment.Fails place reason) :
    next.errors.items <:+ subscription.errors.items := by
  cases turn with
  | performs does turn =>
      exact turn.errors_suffix fun reason fails => spared reason ⟨_, does, fails⟩
  | delivered _ done =>
      obtain ⟨_, rfl⟩ := Subscription.exists_results_of_deliver done
      exact List.suffix_refl _
  | rests => exact List.suffix_refl _

/-- Who leaves was ended by its own holder, could not be asked for, or is failed. -/
theorem leaves (distinct : moment.reader.session.requestIds.Nodup)
    (found : moment.reader.session.subscriptions[place]? = some subscription)
    (live : moment.reader.session.Live place) (gone : ¬ session.Live place) :
    moment.stride = .does (.unsubscribe place) ∨
      moment.stride = .does (.remove subscription.requestId) ∨
        ∃ reason, moment.Fails place reason := by
  cases turn with
  | delivered _ _ still | rests _ still => exact (gone (still.mpr live)).elim
  | performs does turn =>
      cases turn with
      | rests still | admitted _ _ still | delivered _ _ still | received still
      | released still => exact (gone (still.mpr live)).elim
      | unsubscribed =>
          exact .inl (Moment.stride_of_unclosed does fun _ _ same => by cases same)
      | removed =>
          exact .inr (.inl (Moment.stride_of_unclosed does fun _ _ same => by cases same))
      | failed fails => exact .inr (.inr ⟨_, _, does, fails⟩)
      | displaced elsewhere present same =>
          exact (elsewhere (Session.place_eq distinct found present same)).elim

end Turn

section Telling

variable (consistent : reader.session.Consistent)
  (found : reader.session.subscriptions[place]? = some subscription)

include consistent found

private theorem exists_closed_run (settings : ClientSettings)
    (closed : subscription.isClosed = true) (strides : List (Stride α)) :
    ∃ last, (reader.run settings strides).session.subscriptions[place]? = some last ∧
      last.isClosed = true := by
  induction strides generalizing reader subscription with
  | nil => exact ⟨subscription, found, closed⟩
  | cons stride later ih =>
      have moves := moves_advance settings ⟨reader, stride⟩
      obtain ⟨next, present, turn⟩ := moves.turn consistent found
      exact ih (moves.consistent_after consistent) present (turn.isClosed_eq closed)

/-- An error waits for as long as nothing is received. -/
theorem exists_waiting_run (settings : ClientSettings) (gone : ¬ reader.session.Live place)
    (waits : subscription.errors.items = [reason] ∧ subscription.isClosed = false)
    (patient : Waits place strides) :
    ∃ last, (reader.run settings strides).session.subscriptions[place]? = some last ∧
      last.errors.items = [reason] ∧ last.isClosed = false := by
  induction strides generalizing reader subscription with
  | nil => exact ⟨subscription, found, waits⟩
  | cons stride later ih =>
      have moves := moves_advance settings ⟨reader, stride⟩
      obtain ⟨next, present, turn⟩ := moves.turn consistent found
      obtain ⟨unended, untaken⟩ := patient stride List.mem_cons_self
      exact ih (moves.consistent_after consistent) present
        (fun still => gone (turn.live_of_live still)) (turn.waits gone unended untaken waits)
        fun other member => patient other (List.mem_cons_of_mem _ member)

/-- **A reason that waits is heard next, and nothing after it.** -/
theorem tells (gone : ¬ reader.session.Live place)
    (waits : subscription.errors.items = [reason] ∧ subscription.isClosed = false) :
    Tells settings reader place reason := by
  have heard (strides : List (Stride α)) (patient : Waits place strides) :
      ∃ last, (reader.run settings strides).session.subscriptions[place]? = some last ∧
        (last.receive false).1 = .failed reason ∧ (last.receive false).2.isClosed = true := by
    obtain ⟨last, reached, waiting, unseen⟩ :=
      exists_waiting_run consistent found settings gone waits patient
    exact ⟨last, reached, (last.takes_receive false).told_of_waiting waiting unseen⟩
  refine ⟨fun strides patient => ?_, fun strides rest isCancelled patient => ?_⟩
  · obtain ⟨last, reached, hears, _⟩ := heard strides patient
    exact (Session.receive_eq reached false).1.trans hears
  · obtain ⟨last, reached, _, closed⟩ := heard strides patient
    have consistentThen := consistent_run settings consistent
      (strides ++ [.does (.receive place false)])
    have taken := (Session.receive_eq reached false).2
    rw [run_concat] at consistentThen
    obtain ⟨final, present, ended⟩ :=
      exists_closed_run consistentThen taken settings closed rest
    rw [run_append, run_cons]
    exact (Session.receive_eq present isCancelled).1.trans
      ((final.takes_receive isCancelled).eq_of_closed ended).1

end Telling

/-! ### Once and for a reason -/

/-- What fails a subscription tells its holder why, and takes it out of the tables. -/
theorem after_of_fails (consistent : moment.reader.session.Consistent) (settings : ClientSettings)
    (found : moment.reader.session.subscriptions[place]? = some subscription)
    (fails : moment.Fails place reason) :
    (moment.after settings).session.subscriptions[place]? = some (subscription.fail reason) ∧
      ¬ (moment.after settings).session.Live place := by
  obtain ⟨_, does, fails⟩ := fails
  rw [(Moment.after_of_operation? settings does).1]
  exact consistent.perform_of_fails settings found fails

/-- Who is failed is live. -/
theorem live_of_fails (consistent : moment.reader.session.Consistent)
    (fails : moment.Fails place reason) : moment.reader.session.Live place := by
  obtain ⟨_, _, fails⟩ := fails
  exact consistent.live_of_fails fails

/-- **Nobody is failed twice**: who has been failed is in no table any more. -/
theorem pairwise_not_fails (settings : ClientSettings) (consistent : reader.session.Consistent)
    (place : Nat) (strides : List (Stride α)) :
    (reader.history settings strides).Pairwise fun first second =>
      ∀ reason other, first.Fails place reason → ¬ second.Fails place other := by
  induction strides generalizing reader with
  | nil => exact .nil
  | cons stride later ih =>
      have moves := moves_advance settings ⟨reader, stride⟩
      have consistentNext := moves.consistent_after consistent
      refine List.pairwise_cons.mpr ⟨?_, ih consistentNext⟩
      intro second member reason other fails again
      -- The second failure finds the subscription live, which no run makes it again.
      obtain ⟨_, known⟩ := live_of_fails consistent fails
      obtain ⟨subscription, found, _⟩ := consistent.requested _ _ known
      obtain ⟨told, gone⟩ := after_of_fails consistent settings found fails
      obtain ⟨between, _, _, reached⟩ := exists_of_mem_history member
      have consistentThen : second.reader.session.Consistent :=
        reached ▸ consistent_run settings consistentNext between
      have live := live_of_fails consistentThen again
      rw [reached] at live
      exact gone ((onward_interleaved consistentNext told between).live live)

/-- What the reader is left to close comes from a reason. -/
theorem Moment.Undertakes.causes {errand : Errand} {requestId : UInt64}
    (undertakes : moment.Undertakes errand)
    (about : errand = .reject requestId true reason ∨ errand = .close requestId reason) :
    moment.Causes requestId reason := by
  cases undertakes with
  | @looksUp frame _ taken left =>
      cases frame with
      | response | other => cases left
      | notification =>
          obtain ⟨_, _, rfl⟩ := Option.map_eq_some_iff.mp left
          rcases about with impossible | impossible
          · cases impossible
          · cases impossible
      | failure named =>
          cases named with
          | none => cases left
          | some =>
              cases Option.some.inj left
              rcases about with same | impossible
              · obtain ⟨rfl, _, rfl⟩ := Errand.reject.inj same
                exact .failed taken
              · cases impossible
  | closes delivers found refused =>
      rcases about with impossible | same
      · cases impossible
      · obtain ⟨rfl, rfl⟩ := Errand.close.inj same
        exact .refused delivers found rfl refused

/-- What the reader closes a subscription for has come up before, and nothing but the holders has
done anything since. -/
theorem exists_causes {ids : IdSource} {before : List (Stride α)}
    (found : ((start ids).run settings before).session.subscriptions[place]? = some subscription)
    (fails : Moment.Fails ⟨(start ids).run settings before, .proceeds⟩ place reason) :
    ∃ first stride, ∃ holders : List (Session.Operation α),
      before = first ++ stride :: holders.map .does ∧
        Moment.Causes ⟨(start ids).run settings first, stride⟩ subscription.requestId reason := by
  obtain ⟨operation, does, fails⟩ := fails
  rcases Moment.stride_of_operation? does with ⟨⟨⟩⟩ | ⟨_, requestId, cause, rfl, about⟩
  -- The request that is closed is the one that the subscription is known by.
  have own : subscription.requestId = requestId ∧ cause = reason := by
    rcases fails with closes | ⟨impossible, _⟩
    · cases closes with
      | undelivered reaches =>
          obtain ⟨_, _, ⟨⟩, _⟩ := reaches
      | closed known =>
          obtain ⟨_, present, same⟩ :=
            (consistent_start_run settings ids before).requested _ _ known
          cases found.symm.trans present
          exact ⟨same, rfl⟩
    · cases impossible
  obtain ⟨rfl, rfl⟩ := own
  have busy : ∃ errand, ((start ids : FrameReader α).run settings before).errand = some errand ∧
      (errand = .reject subscription.requestId true cause ∨
        errand = .close subscription.requestId cause) := by
    rcases about with rejects | closes
    · exact ⟨_, rejects, .inl rfl⟩
    · exact ⟨_, closes, .inr rfl⟩
  obtain ⟨errand, busy, about⟩ := busy
  obtain ⟨first, stride, holders, split, undertakes⟩ := exists_undertakes rfl busy
  exact ⟨first, stride, holders, split, undertakes.causes about⟩

/-- Every subscription of a run is told its end at most once, and for the reason for which it
leaves the tables. -/
structure EndsOnce (settings : ClientSettings) (reader : FrameReader α)
    (strides : List (Stride α)) : Prop where
  once : ∀ place, (reader.history settings strides).Pairwise fun first second =>
    ∀ reason other, first.Fails place reason → ¬ second.Fails place other
  /-- The reason goes in as the only error, and is what the holder hears next. -/
  told : ∀ moment ∈ reader.history settings strides, ∀ place reason subscription,
    moment.Fails place reason →
    moment.reader.session.subscriptions[place]? = some subscription →
    (moment.after settings).session.subscriptions[place]? = some (subscription.fail reason) ∧
      (subscription.isHeld = true → (subscription.fail reason).errors.items = [reason] ∧
        Tells settings (moment.after settings) place reason)
  /-- Nothing else puts an error in. -/
  spared : ∀ moment ∈ reader.history settings strides, ∀ place subscription next,
    (∀ reason, ¬ moment.Fails place reason) →
    moment.reader.session.subscriptions[place]? = some subscription →
    (moment.after settings).session.subscriptions[place]? = some next →
    next.errors.items <:+ subscription.errors.items
  /-- Who leaves was ended by its own holder, could not be asked for, or is told why. -/
  leaves : ∀ moment ∈ reader.history settings strides, ∀ place subscription,
    moment.reader.session.subscriptions[place]? = some subscription →
    moment.reader.session.Live place → ¬ (moment.after settings).session.Live place →
    moment.stride = .does (.unsubscribe place) ∨
      moment.stride = .does (.remove subscription.requestId) ∨
        ∃ reason, moment.Fails place reason
  /-- What the reader tells came up when it read the frame or could not put in its result, and
  only the holders have done anything since. -/
  because : ∀ before later place reason subscription, strides = before ++ .proceeds :: later →
    (reader.run settings before).session.subscriptions[place]? = some subscription →
    Moment.Fails ⟨reader.run settings before, .proceeds⟩ place reason →
    ∃ first stride, ∃ holders : List (Session.Operation α),
      before = first ++ stride :: holders.map .does ∧
        Moment.Causes ⟨reader.run settings first, stride⟩ subscription.requestId reason
  /-- The end of the session is told to all, and leaves the tables empty. -/
  ended : ∀ reason,
    let last := ((reader.run settings strides).advance settings (.does (.failAll reason))).1
    last.session.byRequest = .empty ∧ last.session.bySubscription = .empty ∧
      last.session.cancelled = .empty ∧
      ∀ place subscription,
        (reader.run settings strides).session.subscriptions[place]? = some subscription →
        (reader.run settings strides).session.Live place →
        last.session.subscriptions[place]? = some (subscription.fail reason) ∧
          (subscription.isHeld = true → (subscription.fail reason).errors.items = [reason] ∧
            Tells settings last place reason)

/-- Who is failed at some moment of a run hears the reason. -/
theorem tells_of_fails (valid : settings.validate = .ok ()) (ids : IdSource)
    (before : List (Stride α)) {stride : Stride α}
    (found : ((start ids).run settings before).session.subscriptions[place]? = some subscription)
    (fails : Moment.Fails ⟨(start ids).run settings before, stride⟩ place reason) :
    let last := (((start ids).run settings before).advance settings stride).1
    last.session.subscriptions[place]? = some (subscription.fail reason) ∧
      (subscription.isHeld = true → (subscription.fail reason).errors.items = [reason] ∧
        Tells settings last place reason) := by
  have consistent : ((start ids).run settings before).session.Consistent :=
    consistent_start_run settings ids before
  obtain ⟨told, gone⟩ := after_of_fails consistent settings found fails
  refine ⟨told, fun held => ?_⟩
  obtain ⟨_, _, keeps⟩ := followsTopics_run settings ids before place subscription found
  obtain ⟨quiet, unseen⟩ := untold_run settings ids before place subscription found
    (live_of_fails consistent fails)
  have room : 0 < subscription.errors.capacity := by
    rw [keeps.errorCapacity]
    exact (ClientSettings.validate_eq_ok_iff.mp valid).2.2.2.1
  have waiting : (subscription.fail reason).errors.items = [reason] :=
    Subscription.items_fail held quiet room
  have consistentAfter := (moves_advance settings
    ⟨(start ids).run settings before, stride⟩).consistent_after consistent
  refine ⟨waiting, tells consistentAfter told gone ⟨waiting, ?_⟩⟩
  obtain ⟨_, _, same⟩ := subscription.exists_fail reason
  rw [same]
  exact unseen

/-- **Every subscription is told its end once, and the telling is not lost**, whatever the holders
do in the midst of a frame, if the settings are sound and the ids drawn in the run do not
repeat. -/
theorem endsOnce_interleaved {ids : IdSource} (valid : settings.validate = .ok ())
    (distinct :
      ((start ids : FrameReader α).run settings strides).session.ids.Distinct) :
    EndsOnce settings (start ids) strides where
  once := fun place => pairwise_not_fails settings (Session.consistent_start ids) place strides
  told := by
    rintro ⟨_, stride⟩ member place reason subscription fails found
    obtain ⟨before, _, _, rfl⟩ := exists_of_mem_history member
    exact tells_of_fails valid ids before found fails
  spared := by
    rintro ⟨_, stride⟩ member place subscription next spared found present
    obtain ⟨before, _, _, rfl⟩ := exists_of_mem_history member
    obtain ⟨_, reached, turn⟩ := (moves_advance settings
      ⟨(start ids).run settings before, stride⟩).turn (consistent_start_run settings ids before)
        found
    cases present.symm.trans reached
    exact turn.errors_suffix spared
  leaves := by
    rintro ⟨_, stride⟩ member place subscription found live gone
    obtain ⟨before, rest, split, rfl⟩ := exists_of_mem_history member
    have once : ((start ids : FrameReader α).run settings before).session.requestIds.Nodup :=
      nodup_requestIds_run (split ▸ distinct)
    obtain ⟨_, _, turn⟩ := (moves_advance settings
      ⟨(start ids).run settings before, stride⟩).turn (consistent_start_run settings ids before)
        found
    exact turn.leaves once found live gone
  because := fun before _ _ _ _ _ found fails => exists_causes found fails
  ended := by
    intro reason
    refine ⟨rfl, rfl, rfl, fun place subscription found live => ?_⟩
    exact tells_of_fails valid ids strides found ⟨_, rfl, .inr ⟨rfl, live⟩⟩

end LedgerClient.FrameReader
