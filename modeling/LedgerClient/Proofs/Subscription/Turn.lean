import LedgerClient.Proofs.Subscription.Step

/-! # What an operation does to one subscription

Seen from one subscription, an operation is one of a few turns
(`LedgerClient.Session.Turn`), whatever it does to the others
(`LedgerClient.Session.Consistent.turn`). No turn changes the server's id once it is there,
and none brings a subscription back into the tables
(`LedgerClient.Session.onward_run`).
-/

namespace LedgerClient.Session

variable {α : Type}

/-- An operation ends the subscription at a place for a reason, alone or with all others. -/
def Fails (session : Session α) (operation : Operation α) (place : Nat)
    (reason : SubscriptionError) : Prop :=
  session.Closes operation place reason ∨ operation = .failAll reason ∧ session.Live place

/-- What an operation does to the subscription at a place. -/
inductive Turn (session after : Session α) (place : Nat) (subscription : Subscription α) :
    Operation α → Subscription α → Prop
  /-- Nothing happens to it, but it may be that another one is listed in its place. -/
  | rests {operation} (live : after.Live place ↔ session.Live place)
      (listed : after.Listed place → session.Listed place)
      (spared : session.Spares operation place) :
      Turn session after place subscription operation subscription
  | admitted {bytes result serverId}
      (frame : Frame.parse bytes = .ok (.response subscription.requestId result))
      (unnamed : subscription.serverId = none) (live : after.Live place ↔ session.Live place) :
      Turn session after place subscription (.dispatch bytes)
        { subscription with serverId := some serverId }
  | delivered {operation result next} (reaches : session.Reaches operation place result)
      (done : subscription.deliver result = .ok next)
      (live : after.Live place ↔ session.Live place)
      (listed : after.Listed place → session.Listed place) :
      Turn session after place subscription operation next
  | received {isCancelled} (live : after.Live place ↔ session.Live place)
      (listed : after.Listed place → session.Listed place) :
      Turn session after place subscription (.receive place isCancelled)
        (subscription.receive isCancelled).2
  | released (live : after.Live place ↔ session.Live place)
      (listed : after.Listed place → session.Listed place) :
      Turn session after place subscription (.release place) { subscription with isHeld := false }
  | unsubscribed (unseen : subscription.isClosed = false) (gone : ¬ after.Live place) :
      Turn session after place subscription (.unsubscribe place)
        { subscription with isClosed := true }
  /-- Its request could not be written. -/
  | removed (live : session.Live place) (gone : ¬ after.Live place) :
      Turn session after place subscription (.remove subscription.requestId) subscription
  /-- The holder of another subscription ends this one, which has the same request id. -/
  | displaced {other neighbour} (elsewhere : place ≠ other)
      (found : session.subscriptions[other]? = some neighbour)
      (same : subscription.requestId = neighbour.requestId) (live : session.Live place)
      (gone : ¬ after.Live place) :
      Turn session after place subscription (.unsubscribe other) subscription
  | failed {operation reason} (fails : session.Fails operation place reason)
      (live : session.Live place) (gone : ¬ after.Live place) :
      Turn session after place subscription operation (subscription.fail reason)

variable {settings : ClientSettings} {session after : Session α} {operation : Operation α}
  {place other : Nat} {subscription next : Subscription α} {reason : SubscriptionError}
  {result again : Json}

/-- A result reaches one place. -/
theorem Reaches.unique (reaches : session.Reaches operation place result)
    (alsoReaches : session.Reaches operation other again) : place = other ∧ result = again := by
  obtain ⟨bytes, serverId, rfl, frame, listed⟩ := reaches
  obtain ⟨_, _, ⟨⟩, sameFrame, alsoListed⟩ := alsoReaches
  rw [frame] at sameFrame
  cases sameFrame
  rw [listed] at alsoListed
  exact ⟨Option.some.inj alsoListed, rfl⟩

private theorem Reaches.spares (reaches : session.Reaches operation other result)
    (elsewhere : place ≠ other) : session.Spares operation place := by
  refine ⟨fun _ alsoReaches => elsewhere (alsoReaches.unique reaches).1, ?_⟩
  obtain ⟨_, _, rfl, _⟩ := reaches
  intro _ impossible
  cases impossible

private theorem Closes.spares (closes : session.Closes operation other reason)
    (elsewhere : place ≠ other) : session.Spares operation place := by
  cases closes with
  | undelivered reaches => exact reaches.spares elsewhere
  | rejected frame => exact spares_of_frame session place frame (by simp)
  | closed => exact spares_of_isQuiet rfl

private theorem turn_update_of_ne {change : Subscription α → Subscription α}
    (found : session.subscriptions[place]? = some subscription) (elsewhere : place ≠ other)
    (spared : session.Spares operation place) :
    ∃ next, (session.update other change).subscriptions[place]? = some next ∧
      session.Turn (session.update other change) place subscription operation next :=
  ⟨subscription, (getElem?_update_of_ne elsewhere).trans found, .rests Iff.rfl id spared⟩

/-- Its holder ends one subscription, and what is known by the request leaves. -/
theorem Consistent.turn_of_unsubscribe (consistent : session.Consistent) {leaver : Nat}
    {holder leaving : Subscription α} {ids : IdSource} {cancelled : IdTable String}
    (held : session.subscriptions[other]? = some holder) (unseen : holder.isClosed = false)
    (present : (session.update other ({ · with isClosed := true })).subscriptions[leaver]? =
      some leaving)
    (sameRequest : leaving.requestId = holder.requestId)
    (known : session.byRequest.find? leaving.requestId = some leaver)
    (found : session.subscriptions[place]? = some subscription) :
    let after := ((session.update other ({ · with isClosed := true })).without leaving.requestId
      leaving.serverId).remember ids cancelled
    ∃ next, after.subscriptions[place]? = some next ∧
      session.Turn after place subscription (.unsubscribe other) next := by
  have kept : (session.update other ({ · with isClosed := true })).Consistent :=
    consistent.update fun _ _ => ⟨rfl, rfl⟩
  have live_iff : _ ↔ _ ∧ place ≠ leaver := kept.live_without_iff present known
  -- What is known by the request may have come after the holder's own subscription left.
  by_cases same : place = other
  · subst same
    rw [found] at held
    cases held
    refine ⟨_, getElem?_update_self found, .unsubscribed unseen fun live => ?_⟩
    obtain ⟨before, elsewhere⟩ := live_iff.mp live
    have alsoKnown := (consistent.live_iff found).mp before
    rw [← sameRequest, known] at alsoKnown
    exact elsewhere (Option.some.inj alsoKnown).symm
  · refine ⟨subscription, (getElem?_update_of_ne same).trans found, ?_⟩
    by_cases leaves : place = leaver
    · subst leaves
      rw [getElem?_update_of_ne same, found] at present
      cases present
      exact .displaced same held sameRequest ⟨_, known⟩ fun live => (live_iff.mp live).2 rfl
    · exact .rests (live_iff.trans (and_iff_left leaves))
        (listed_of_listed_without leaving.requestId) (spares_of_isQuiet rfl)

/-- **Seen from one subscription**, every step is one of the turns. -/
theorem Consistent.turn (consistent : session.Consistent)
    (step : session.Step settings operation after)
    (found : session.subscriptions[place]? = some subscription) :
    ∃ next, after.subscriptions[place]? = some next ∧
      session.Turn after place subscription operation next := by
  cases step with
  | rests later spared =>
      refine ⟨subscription, found, .rests Iff.rfl id (spared place ?_)⟩
      rw [found]
      exact Option.some_ne_none subscription
  | registered drawn =>
      have inside := (List.getElem?_eq_some_iff.mp found).1
      have free := (IdSource.exists_of_drawFree drawn).1
      refine ⟨subscription, (List.getElem?_append_left inside).trans found,
        .rests ?_ id (spares_of_isQuiet rfl)⟩
      exact live_add_iff (Nat.ne_of_lt inside) (IdTable.contains_eq_false_iff.mp free)
  | @acknowledged _ there _ _ _ frame present known unnamed =>
      by_cases same : place = there
      · subst same
        rw [found] at present
        cases present
        exact ⟨_, getElem?_update_self found, .admitted frame unnamed Iff.rfl⟩
      · exact ⟨subscription, (getElem?_update_of_ne same).trans found,
          .rests Iff.rfl (listed_of_listed_accept same)
            (spares_of_frame session place frame (by simp))⟩
  | @delivered _ there _ _ _ reaches present done =>
      by_cases same : place = there
      · subst same
        rw [found] at present
        cases present
        exact ⟨_, getElem?_update_self found, .delivered reaches done Iff.rfl id⟩
      · exact turn_update_of_ne found same (reaches.spares same)
  | @received there _ _ present =>
      by_cases same : place = there
      · subst same
        rw [found] at present
        cases present
        exact ⟨_, getElem?_update_self found, .received Iff.rfl id⟩
      · exact turn_update_of_ne found same (spares_of_receive (Ne.symm same))
  | @released there =>
      by_cases same : place = there
      · subst same
        exact ⟨_, getElem?_update_self found, .released Iff.rfl id⟩
      · exact turn_update_of_ne found same (spares_of_isQuiet rfl)
  | @shut there _ present unseen unknown =>
      by_cases same : place = there
      · subst same
        rw [found] at present
        cases present
        refine ⟨_, getElem?_update_self found, .unsubscribed unseen fun live => ?_⟩
        rw [(consistent.live_iff found).mp live] at unknown
        cases unknown
      · exact turn_update_of_ne found same (spares_of_isQuiet rfl)
  | unsubscribed held unseen present sameRequest known _ =>
      exact consistent.turn_of_unsubscribe held unseen present sameRequest known found
  | @removed there _ present known =>
      by_cases same : place = there
      · subst same
        rw [found] at present
        cases present
        refine ⟨_, found, .removed ⟨_, known⟩ fun live => ?_⟩
        exact ((consistent.live_without_iff found known).mp live).2 rfl
      · refine ⟨_, found, .rests ?_ (listed_of_listed_without _)
          (spares_of_isQuiet rfl)⟩
        exact (consistent.live_without_iff present known).trans (and_iff_left same)
  | @closed _ there leaving _ _ _ closes present known _ =>
      by_cases same : place = there
      · subst same
        rw [found] at present
        cases present
        refine ⟨_, getElem?_update_self found, .failed (.inl closes) ⟨_, known⟩ fun live => ?_⟩
        exact ((consistent.live_without_iff found known).mp live).2 rfl
      · refine ⟨_, (getElem?_update_of_ne same).trans found, .rests ?_
          (listed_of_listed_without leaving.requestId) ?_⟩
        · exact (consistent.live_without_iff present known).trans (and_iff_left same)
        · exact closes.spares same
  | failed =>
      by_cases live : session.Live place
      · refine ⟨_, ?_, .failed (.inr ⟨rfl, live⟩) live not_live_failAll⟩
        exact (consistent.getElem?_failAll live).trans (congrArg (Option.map _) found)
      · refine ⟨subscription, (consistent.getElem?_failAll_of_not_live live).trans found,
          .rests (iff_of_false not_live_failAll live) ?_ (spares_of_isQuiet rfl)⟩
        rintro ⟨_, ⟨⟩⟩

/-- Nothing but a live subscription fails. -/
theorem Consistent.live_of_fails (consistent : session.Consistent)
    (fails : session.Fails operation place reason) : session.Live place := by
  rcases fails with closes | ⟨_, live⟩
  · obtain ⟨_, _, _, known, _⟩ := consistent.exists_of_closes .standard closes
    exact ⟨_, known⟩
  · exact live

/-- **What fails a subscription** tells its holder why, and takes it out of the tables. -/
theorem Consistent.perform_of_fails (consistent : session.Consistent) (settings : ClientSettings)
    (found : session.subscriptions[place]? = some subscription)
    (fails : session.Fails operation place reason) :
    (session.perform settings operation).1.subscriptions[place]? = some (subscription.fail reason) ∧
      ¬ (session.perform settings operation).1.Live place := by
  rcases fails with closes | ⟨rfl, live⟩
  · obtain ⟨_, _, present, known, _, done⟩ := consistent.exists_of_closes settings closes
    rw [found] at present
    cases present
    rw [done]
    exact ⟨getElem?_update_self found,
      fun live => ((consistent.live_without_iff found known).mp live).2 rfl⟩
  · refine ⟨?_, not_live_failAll⟩
    exact (consistent.getElem?_failAll live).trans (congrArg (Option.map _) found)

/-- A change makes no subscription and drops none. -/
theorem update_getElem?_eq_none_iff {change : Subscription α → Subscription α} :
    (session.update other change).subscriptions[place]? = none ↔
      session.subscriptions[place]? = none := by
  rw [List.getElem?_eq_none_iff, List.getElem?_eq_none_iff, update, List.length_modify]

/-- A subscription appears when it is asked for, and in no other way. -/
theorem Consistent.added (consistent : session.Consistent)
    (step : session.Step settings operation after)
    (absent : session.subscriptions[place]? = none)
    (found : after.subscriptions[place]? = some next) :
    ∃ topic id, operation = .register topic ∧ next = .ofTopic topic id
      settings.resultCapacity.toNat settings.errorCapacity.toNat := by
  have unchanged : after.subscriptions[place]? ≠ none := by
    rw [found]
    exact Option.some_ne_none next
  cases step with
  | @registered topic id _ _ =>
      exact ⟨topic, id, rfl, (Sequence.eq_of_getElem?_concat absent found).2⟩
  | rests | removed => exact (unchanged absent).elim
  | acknowledged | delivered | received | released | shut | unsubscribed | closed =>
      exact (unchanged (update_getElem?_eq_none_iff.mpr absent)).elim
  | failed =>
      refine (unchanged ((consistent.getElem?_failAll_of_not_live ?_).trans absent)).elim
      rintro ⟨_, known⟩
      obtain ⟨_, present, _⟩ := consistent.requested _ _ known
      rw [absent] at present
      cases present

namespace Turn

variable (turn : session.Turn after place subscription operation next)

include turn

/-- A subscription keeps what identifies it. -/
theorem keeps : subscription.Keeps next := by
  cases turn with
  | rests | removed | displaced => exact .refl subscription
  | admitted | released | unsubscribed => exact ⟨rfl, rfl, rfl, rfl⟩
  | delivered _ done => exact (Subscription.keeps_of_deliver done).1
  | received => exact (subscription.takes_receive _).keeps.1
  | failed => exact Subscription.keeps_fail

/-- A subscription keeps the server's id, once it has one. -/
theorem serverId_eq {serverId : UInt64} (named : subscription.serverId = some serverId) :
    next.serverId = some serverId := by
  cases turn with
  | rests | removed | displaced | released | unsubscribed => exact named
  | admitted _ unnamed =>
      rw [unnamed] at named
      cases named
  | delivered _ done => exact (Subscription.keeps_of_deliver done).2.trans named
  | received => exact (subscription.takes_receive _).keeps.2.trans named
  | failed => exact Subscription.serverId_fail.trans named

/-- A subscription keeps the method that ends it. -/
theorem unsubscribeMethod_eq : next.unsubscribeMethod = subscription.unsubscribeMethod := by
  cases turn with
  | rests | admitted | released | unsubscribed | removed | displaced => rfl
  | delivered _ done =>
      obtain ⟨_, rfl⟩ := Subscription.exists_results_of_deliver done
      rfl
  | received => exact (subscription.takes_receive _).unsubscribeMethod_eq
  | failed =>
      obtain ⟨_, _, same⟩ := subscription.exists_fail _
      rw [same]

/-- What is live now has been live before. -/
theorem live_of_live (still : after.Live place) : session.Live place := by
  cases turn with
  | rests live | admitted _ _ live | delivered _ _ live | received live | released live =>
      exact live.mp still
  | removed live | displaced _ _ _ live | failed _ live => exact live
  | unsubscribed _ gone => exact (gone still).elim

end Turn

/-- What becomes of a subscription: it is the same one, a server's id stays, and it does not
come back into the tables. -/
structure Onward (session last : Session α) (place : Nat) (subscription : Subscription α) :
    Prop where
  found : ∃ after, last.subscriptions[place]? = some after ∧ subscription.Keeps after ∧
    ∀ serverId, subscription.serverId = some serverId → after.serverId = some serverId
  live : last.Live place → session.Live place
  listed : last.Listed place → session.Live place

/-- **Every run leads a subscription onward.** -/
theorem Consistent.onward (consistent : session.Consistent)
    (found : session.subscriptions[place]? = some subscription) (operations : List (Operation α)) :
    session.Onward (session.run settings operations) place subscription := by
  induction operations generalizing session subscription with
  | nil => exact ⟨⟨subscription, found, .refl _, fun _ named => named⟩, id,
      consistent.live_of_listed⟩
  | cons operation later ih =>
      have step := consistent.step_perform settings operation
      obtain ⟨next, present, turn⟩ := consistent.turn step found
      obtain ⟨⟨last, reached, keeps, named⟩, live, listed⟩ := ih (consistent.step step) present
      refine ⟨⟨last, reached, turn.keeps.trans keeps, ?_⟩, ?_, ?_⟩
      · intro serverId early
        exact named serverId (turn.serverId_eq early)
      · intro still
        exact turn.live_of_live (live still)
      · intro still
        exact turn.live_of_live (listed still)

/-- **The tables are consistent in every state, and no subscription goes backwards**, whatever
happens to a session and in whatever order. -/
theorem onward_run (settings : ClientSettings) (ids : IdSource)
    (before later : List (Operation α)) :
    let session := (start ids).run settings before
    session.Consistent ∧ session.bySubscription.size ≤ session.byRequest.size ∧
      ∀ place subscription, session.subscriptions[place]? = some subscription →
        session.Onward (session.run settings later) place subscription := by
  have consistent : ((start ids).run settings before).Consistent := (consistent_start ids).run _
  exact ⟨consistent, consistent.size_le, fun _ _ found => consistent.onward found later⟩

/-! ### A subscription to slots -/

/-- Settings with little room. -/
def tightSettings : ClientSettings :=
  { ClientSettings.standard with resultCapacity := 2, errorCapacity := 1 }

/-- Ids that count upwards. -/
def countingIds : IdSource := ⟨false, fun index => UInt64.ofNat (2 * index), 0⟩

/-- A topic without parameters. -/
def slots : Topic UInt64 := .words "slotSubscribe" "slotUnsubscribe" [] []

/-- The server admits the first request as subscription 7. -/
def admission : List UInt8 := Utf8.encode "\x7b\"id\":0,\"result\":7\x7d"

/-- The server tells subscription 7 of slot 5. -/
def slotNotice : List UInt8 :=
  Utf8.encode "\x7b\"params\":\x7b\"result\":5,\"subscription\":7\x7d\x7d"

/-- The subscription when the server has admitted it. -/
def admittedSubscription : Subscription UInt64 :=
  { Subscription.ofTopic slots 0 2 1 with serverId := some 7 }

/-- A subscription that gets an id of the server and is given up. -/
theorem onward_slots :
    let session := (start countingIds).run tightSettings [.register slots, .dispatch admission]
    session.subscriptions[0]? = some admittedSubscription ∧
      session.Onward (session.run tightSettings [.dispatch slotNotice, .unsubscribe 0]) 0
        admittedSubscription := by
  have found : ((start countingIds).run tightSettings
      [.register slots, .dispatch admission]).subscriptions[0]? = some admittedSubscription := by
    rw [run_cons, perform_register_of_free rfl]
    rfl
  exact ⟨found, (onward_run tightSettings countingIds _ _).2.2 0 _ found⟩

/-! ### What was asked for -/

/-- Every subscription was asked for, and its queues are as large as the settings say. -/
def FollowsTopics (settings : ClientSettings) (session : Session α) : Prop :=
  ∀ (place : Nat) (subscription : Subscription α),
    session.subscriptions[place]? = some subscription →
    ∃ topic id, (Subscription.ofTopic topic id settings.resultCapacity.toNat
      settings.errorCapacity.toNat).Keeps subscription

/-- **Every subscription of a run was asked for.** -/
theorem followsTopics_run (settings : ClientSettings) (ids : IdSource)
    (operations : List (Operation α)) :
    ((start ids).run settings operations).FollowsTopics settings := by
  refine (consistent_start ids).run_induction (FollowsTopics settings) ?start ?step operations
  case start =>
    intro place subscription found
    cases found
  case step =>
    intro session operation after consistent step follows place next found
    cases before : session.subscriptions[place]? with
    | none =>
        obtain ⟨topic, id, _, rfl⟩ := consistent.added step before found
        exact ⟨topic, id, .refl _⟩
    | some subscription =>
        obtain ⟨topic, id, keeps⟩ := follows place subscription before
        obtain ⟨_, present, turn⟩ := consistent.turn step before
        rw [found] at present
        cases present
        exact ⟨topic, id, keeps.trans turn.keeps⟩

end LedgerClient.Session
