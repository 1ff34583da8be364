import LedgerClient.Proofs.Subscription.Turn
import Mathlib.Data.List.Induction

/-! # What a subscriber gets

Results are told in the order in which they come, from the first one on and without a gap:
what the holder of a subscription has got so far, and what still waits for it, is what a first
part of the notifications says. A result that cannot be delivered is the end of it
(`LedgerClient.Session.EndsAt`). This holds in every state of every run, however often the
holder gave up waiting (`LedgerClient.Session.delivers_run`).
-/

namespace LedgerClient.Session

variable {α : Type}

namespace Moment

/-- The result of a notification with the server's id of the subscription at a place. -/
def heard (place : Nat) (moment : Moment α) : List Json :=
  match moment.operation, moment.session.subscriptions[place]?.bind Subscription.serverId with
  | .dispatch bytes, some own =>
    match Frame.parse bytes with
    | .ok (.notification serverId result) => if serverId = own then [result] else []
    | _ => []
  | _, _ => []

/-- The result that the holder of the subscription at a place gets. -/
def received (place : Nat) (moment : Moment α) : List α :=
  match moment.operation with
  | .receive there isCancelled =>
    if there = place then (moment.session.receive place isCancelled).1.values else []
  | _ => []

variable {moment : Moment α} {place : Nat} {subscription : Subscription α}

/-- A notification is heard where its id is the server's. -/
theorem heard_of_serverId {bytes : List UInt8} {serverId : UInt64} {result : Json}
    (operation : moment.operation = .dispatch bytes)
    (frame : Frame.parse bytes = .ok (.notification serverId result))
    (found : moment.session.subscriptions[place]? = some subscription)
    (named : subscription.serverId = some serverId) : moment.heard place = [result] := by
  simp only [heard, operation, found, Option.bind_some, named, frame, if_true]

/-- Nothing is heard but a notification with the id of the subscription. -/
theorem heard_eq_nil_or (moment : Moment α) (place : Nat) : moment.heard place = [] ∨
    ∃ bytes serverId result subscription, moment.operation = .dispatch bytes ∧
      Frame.parse bytes = .ok (.notification serverId result) ∧
        moment.session.subscriptions[place]? = some subscription ∧
          subscription.serverId = some serverId := by
  unfold heard
  split
  case h_1 bytes own operation named =>
    split
    case h_1 serverId result frame =>
      split
      case isTrue same =>
        obtain ⟨subscription, found, also⟩ := Option.bind_eq_some_iff.mp named
        exact .inr ⟨bytes, serverId, result, subscription, operation, frame, found, same ▸ also⟩
      case isFalse => exact .inl rfl
    case h_2 => exact .inl rfl
  case h_2 => exact .inl rfl

/-- Nothing is heard before the subscription is there. -/
theorem heard_of_absent (absent : moment.session.subscriptions[place]? = none) :
    moment.heard place = [] := by
  rcases moment.heard_eq_nil_or place with silent | ⟨_, _, _, _, _, _, found, _⟩
  · exact silent
  · rw [absent] at found
    cases found

private theorem heard_of_unnamed (found : moment.session.subscriptions[place]? = some subscription)
    (unnamed : subscription.serverId = none) : moment.heard place = [] := by
  rcases moment.heard_eq_nil_or place with silent | ⟨_, _, _, _, _, _, present, named⟩
  · exact silent
  · rw [found] at present
    cases present
    rw [unnamed] at named
    cases named

private theorem received_of_untaken
    (untaken : ∀ isCancelled, moment.operation ≠ .receive place isCancelled) :
    moment.received place = [] := by
  unfold received
  split
  case h_1 there isCancelled operation =>
    refine if_neg ?_
    rintro rfl
    exact untaken isCancelled operation
  case h_2 => rfl

/-- Nothing is received before the subscription is there. -/
theorem received_of_absent (absent : moment.session.subscriptions[place]? = none) :
    moment.received place = [] := by
  unfold received
  split
  · split
    · rw [receive, absent]
      rfl
    · rfl
  · rfl

end Moment

variable {settings : ClientSettings} {session after : Session α} {operation : Operation α}
  {place : Nat} {subscription next : Subscription α} {reason : SubscriptionError} {result : Json}

/-- A listed subscription hears what is looked up for it, and nothing else. -/
theorem Consistent.heard_of_unreached (consistent : session.Consistent)
    (listed : session.Listed place)
    (unreached : ∀ result, ¬ session.Reaches operation place result) :
    Moment.heard place ⟨session, operation⟩ = [] := by
  rcases Moment.heard_eq_nil_or ⟨session, operation⟩ place with
    silent | ⟨bytes, serverId, result, subscription, same, frame, found, named⟩
  · exact silent
  · obtain ⟨own, alsoNamed, known⟩ := (consistent.listed_iff found).mp listed
    rw [named] at alsoNamed
    cases alsoNamed
    exact (unreached result ⟨bytes, serverId, same, frame, known⟩).elim

/-- What reaches a subscription is heard there. -/
theorem Consistent.heard_of_reaches (consistent : session.Consistent)
    (reaches : session.Reaches operation place result) :
    Moment.heard place ⟨session, operation⟩ = [result] := by
  obtain ⟨bytes, serverId, same, frame, known⟩ := reaches
  obtain ⟨subscription, found, named, _⟩ := consistent.acknowledged _ _ known
  exact Moment.heard_of_serverId same frame found named

private theorem Fails.untaken (fails : session.Fails operation place reason) (isCancelled : Bool) :
    operation ≠ .receive place isCancelled := by
  rcases fails with closes | ⟨rfl, _⟩
  · cases closes with
    | undelivered reaches =>
        obtain ⟨_, _, rfl, _⟩ := reaches
        simp
    | rejected | closed => simp
  · simp

/-- Either a result is put in, or what is taken out and what is left is what was there; then
nothing is heard either, as long as the subscription is listed. -/
theorem Turn.flows (consistent : session.Consistent) (consistentAfter : after.Consistent)
    (found : session.subscriptions[place]? = some subscription)
    (turn : session.Turn after place subscription operation next) :
    (∃ result, session.Reaches operation place result ∧ subscription.deliver result = .ok next) ∨
      Moment.received place ⟨session, operation⟩ ++ next.results.items =
        subscription.results.items ∧
      (after.Listed place → (session.Listed place ∨ subscription.serverId = none) ∧
        Moment.heard place ⟨session, operation⟩ = []) := by
  have unlisted (gone : ¬ after.Live place) : ¬ after.Listed place :=
    fun listed => gone (consistentAfter.live_of_listed listed)
  cases turn with
  | delivered reaches done => exact .inl ⟨_, reaches, done⟩
  | rests _ listed spared =>
      refine .inr ⟨?_, fun still => ⟨.inl (listed still), ?_⟩⟩
      · rw [Moment.received_of_untaken spared.untaken, List.nil_append]
      · exact consistent.heard_of_unreached (listed still) spared.unreached
  | admitted _ unnamed =>
      exact .inr ⟨rfl, fun _ => ⟨.inr unnamed, Moment.heard_of_unnamed found unnamed⟩⟩
  | @received isCancelled _ listed =>
      refine .inr ⟨?_, fun still => ⟨.inl (listed still), rfl⟩⟩
      simp only [Moment.received, if_true, receive, found]
      exact (subscription.takes_receive isCancelled).items_eq
  | released _ listed => exact .inr ⟨rfl, fun still => ⟨.inl (listed still), rfl⟩⟩
  | unsubscribed _ gone | removed _ gone | displaced _ _ _ _ gone =>
      exact .inr ⟨rfl, fun still => (unlisted gone still).elim⟩
  | failed fails _ gone =>
      refine .inr ⟨?_, fun still => (unlisted gone still).elim⟩
      rw [Moment.received_of_untaken fails.untaken, Subscription.results_fail, List.nil_append]

/-- The first part of the notifications that went in; it is all of them as long as the
subscription is listed. -/
structure Shows (moments : List (Moment α)) (session : Session α) (place : Nat)
    (subscription : Subscription α) (shown : List Json) : Prop where
  first : shown <+: moments.flatMap (·.heard place)
  read : shown.map subscription.decode =
    (moments.flatMap (·.received place) ++ subscription.results.items).map .ok
  all : session.Listed place → shown = moments.flatMap (·.heard place)
  silent : subscription.serverId = none → moments.flatMap (·.heard place) = []

/-- **Every turn keeps what is shown in order.** -/
theorem Shows.turn {moments : List (Moment α)} {shown : List Json}
    (shows : Shows moments session place subscription shown)
    (consistent : session.Consistent) (consistentAfter : after.Consistent)
    (found : session.subscriptions[place]? = some subscription)
    (turn : session.Turn after place subscription operation next) :
    ∃ shown, Shows (moments ++ [⟨session, operation⟩]) after place next shown := by
  have silent : next.serverId = none →
      (moments ++ [Moment.mk session operation]).flatMap (·.heard place) = [] := by
    intro unnamed
    have before : subscription.serverId = none := by
      by_contra named
      obtain ⟨serverId, named⟩ := Option.ne_none_iff_exists'.mp named
      rw [turn.serverId_eq named] at unnamed
      cases unnamed
    rw [List.flatMap_append, shows.silent before, List.flatMap_singleton,
      Moment.heard_of_unnamed found before]
    rfl
  -- A result that goes in is shown behind the others; no other turn shows anything.
  rcases turn.flows consistent consistentAfter found with
    ⟨result, reaches, done⟩ | ⟨flow, hears⟩
  · obtain ⟨value, _, read, items, _, rfl⟩ := Subscription.exists_of_deliver done
    have listed : session.Listed place := by
      obtain ⟨_, serverId, _, _, known⟩ := reaches
      exact ⟨serverId, known⟩
    have untaken : Moment.received place ⟨session, operation⟩ = [] := by
      obtain ⟨_, _, rfl, _⟩ := reaches
      rfl
    have heard := consistent.heard_of_reaches reaches
    have whole : shown ++ [result] =
        (moments ++ [Moment.mk session operation]).flatMap (·.heard place) := by
      rw [List.flatMap_append, List.flatMap_singleton, heard, shows.all listed]
    refine ⟨shown ++ [result], whole ▸ List.prefix_refl _, ?_, fun _ => whole, silent⟩
    rw [List.flatMap_append, List.flatMap_singleton, untaken, List.append_nil, items,
      turn.keeps.decode, ← List.append_assoc]
    calc (shown ++ [result]).map subscription.decode
        = shown.map subscription.decode ++ [value].map .ok := by
          rw [List.map_append, List.map_singleton, List.map_singleton, read]
      _ = _ := by
          rw [shows.read]
          exact List.map_append.symm
  · refine ⟨shown, ?_, ?_, ?_, silent⟩
    · rw [List.flatMap_append]
      exact shows.first.trans (List.prefix_append _ _)
    · rw [turn.keeps.decode, shows.read, List.flatMap_append, List.flatMap_singleton,
        List.append_assoc, flow]
    · intro still
      obtain ⟨before, quiet⟩ := hears still
      rw [List.flatMap_append, List.flatMap_singleton, quiet, List.append_nil]
      rcases before with listed | unnamed
      · exact shows.all listed
      · have none := shows.first
        rw [shows.silent unnamed] at none ⊢
        exact List.prefix_nil.mp none

/-- What is known about the subscription at a place after some moments, if there is one. -/
def Told (moments : List (Moment α)) (session : Session α) (place : Nat) : Prop :=
  (session.subscriptions[place]? = none →
    moments.flatMap (·.heard place) = [] ∧ moments.flatMap (·.received place) = []) ∧
  ∀ subscription, session.subscriptions[place]? = some subscription →
    ∃ shown, Shows moments session place subscription shown

/-- **One operation** continues what has been heard and received. -/
theorem Told.step {moments : List (Moment α)} (told : Told moments session place)
    (consistent : session.Consistent) (step : session.Step settings operation after) :
    Told (moments ++ [⟨session, operation⟩]) after place := by
  have consistentAfter := consistent.step step
  cases before : session.subscriptions[place]? with
  | some subscription =>
      obtain ⟨next, present, turn⟩ := consistent.turn step before
      obtain ⟨shown, shows⟩ := told.2 subscription before
      refine ⟨fun absent => ?_, fun other found => ?_⟩
      · rw [present] at absent
        cases absent
      · rw [present] at found
        cases found
        exact shows.turn consistent consistentAfter before turn
  | none =>
      obtain ⟨unheard, untaken⟩ := told.1 before
      have stillUnheard :
          (moments ++ [Moment.mk session operation]).flatMap (·.heard place) = [] := by
        rw [List.flatMap_append, unheard, List.flatMap_singleton, Moment.heard_of_absent before]
        rfl
      have stillUntaken :
          (moments ++ [Moment.mk session operation]).flatMap (·.received place) = [] := by
        rw [List.flatMap_append, untaken, List.flatMap_singleton, Moment.received_of_absent before]
        rfl
      refine ⟨fun _ => ⟨stillUnheard, stillUntaken⟩, fun next found => ⟨[], ?_⟩⟩
      obtain ⟨topic, id, _, rfl⟩ := consistent.added step before found
      refine ⟨List.nil_prefix, ?_, fun _ => stillUnheard.symm, fun _ => stillUnheard⟩
      rw [stillUntaken]
      rfl

private theorem told_run (settings : ClientSettings) (ids : IdSource)
    (operations : List (Operation α)) (place : Nat) :
    Told ((start ids).history settings operations) ((start ids).run settings operations) place := by
  induction operations using List.reverseRecOn with
  | nil =>
      refine ⟨fun _ => ⟨rfl, rfl⟩, fun subscription found => ?_⟩
      cases found
  | append_singleton operations operation ih =>
      have consistent : ((start ids).run settings operations).Consistent :=
        (consistent_start ids).run operations
      rw [history_concat, run_concat]
      exact ih.step consistent (consistent.step_perform settings operation)

/-- Who is not in the tables any more gets nothing but what still waits. -/
theorem Consistent.flows_of_not_live (consistent : session.Consistent)
    (found : session.subscriptions[place]? = some subscription) (gone : ¬ session.Live place)
    (operations : List (Operation α)) :
    ∃ last, (session.run settings operations).subscriptions[place]? = some last ∧
      (session.history settings operations).flatMap (·.received place) ++ last.results.items =
        subscription.results.items := by
  induction operations generalizing session subscription with
  | nil => exact ⟨subscription, found, rfl⟩
  | cons operation later ih =>
      have step := consistent.step_perform settings operation
      obtain ⟨next, present, turn⟩ := consistent.turn step found
      obtain ⟨last, reached, rest⟩ := ih (consistent.step step) present
        fun still => gone (turn.live_of_live still)
      refine ⟨last, reached, ?_⟩
      -- A result that goes in would have been looked up, so the subscription would be live.
      rcases turn.flows consistent (consistent.step step) found with
        ⟨_, ⟨_, serverId, _, _, known⟩, _⟩ | ⟨flow, _⟩
      · exact (gone (consistent.live_of_listed ⟨serverId, known⟩)).elim
      · rw [history, List.flatMap_cons, List.append_assoc, rest, flow]

/-- A subscription has come to its end: its holder is told why, it is in no table any more, and
nothing goes in, whatever happens later. -/
structure EndsAt (settings : ClientSettings) (session : Session α) (place : Nat)
    (subscription : Subscription α) (reason : SubscriptionError) : Prop where
  told : session.subscriptions[place]? = some (subscription.fail reason)
  unknown : ¬ session.Live place ∧ ¬ session.Listed place
  /-- What is got later and what then still waits is what waited before. -/
  later : ∀ operations, ∃ last,
    (session.run settings operations).subscriptions[place]? = some last ∧
    (session.history settings operations).flatMap (·.received place) ++ last.results.items =
      subscription.results.items

/-- What fails a subscription ends it at once. -/
theorem Consistent.endsAt (consistent : session.Consistent)
    (found : session.subscriptions[place]? = some subscription)
    (fails : session.Fails operation place reason) :
    EndsAt settings (session.perform settings operation).1 place subscription reason := by
  have consistentAfter := consistent.step (consistent.step_perform settings operation)
  obtain ⟨told, gone⟩ := consistent.perform_of_fails settings found fails
  refine ⟨told, ⟨gone, fun listed => gone (consistentAfter.live_of_listed listed)⟩, ?_⟩
  intro operations
  rw [← Subscription.results_fail]
  exact consistentAfter.flows_of_not_live told gone operations

/-- What the holder of a subscription can rely on after some operations. -/
structure Delivers (settings : ClientSettings) (session : Session α)
    (operations : List (Operation α)) (place : Nat) (subscription : Subscription α) : Prop where
  /-- What was got and what still waits is what a first part of the notifications says, and what
  all of them say as long as they reach it. -/
  inOrder : ∃ shown, shown <+: (session.history settings operations).flatMap (·.heard place) ∧
    ((session.run settings operations).Listed place →
      shown = (session.history settings operations).flatMap (·.heard place)) ∧
    shown.map subscription.decode =
      ((session.history settings operations).flatMap (·.received place) ++
        subscription.results.items).map .ok
  bounded : subscription.results.items.length ≤ settings.resultCapacity.toNat
  /-- A result that is looked up for it and cannot go in is the end of it. -/
  refused : ∀ operation result reason,
    (session.run settings operations).Reaches operation place result →
    subscription.deliver result = .error reason →
    EndsAt settings ((session.run settings operations).perform settings operation).1 place
      subscription reason

/-- **Results come in order, without a gap, once each, and no more than there is room for**, in
every state of every run. -/
theorem delivers_run {settings : ClientSettings} {ids : IdSource}
    {operations : List (Operation α)} {place : Nat} {subscription : Subscription α}
    (found : ((start ids).run settings operations).subscriptions[place]? = some subscription) :
    Delivers settings (start ids) operations place subscription := by
  have consistent : ((start ids).run settings operations).Consistent :=
    (consistent_start ids).run operations
  refine ⟨?inOrder, ?bounded, ?refused⟩
  case inOrder =>
    obtain ⟨shown, shows⟩ := (told_run settings ids operations place).2 subscription found
    exact ⟨shown, shows.first, shows.all, shows.read⟩
  case bounded =>
    obtain ⟨topic, id, keeps⟩ := followsTopics_run settings ids operations place subscription found
    exact Nat.le_trans subscription.results.length_le (Nat.le_of_eq keeps.resultCapacity)
  case refused =>
    intro operation result reason reaches refused
    exact consistent.endsAt found (.inl (.undelivered reaches found refused))

/-- Two results come, and one of them is taken out after giving up once. -/
def slotOperations : List (Operation UInt64) :=
  [.register slots, .dispatch admission, .dispatch slotNotice, .receive 0 true,
    .dispatch slotNotice, .receive 0 false]

/-- The subscription when one result still waits. -/
def slotSubscription : Subscription UInt64 :=
  { admittedSubscription with results := ⟨2, [5], by decide⟩ }

/-- A subscription that is told of two slots and has room for one. -/
theorem delivers_slots :
    ((start countingIds).run tightSettings slotOperations).subscriptions[0]? =
        some slotSubscription ∧
      Delivers tightSettings (start countingIds) slotOperations 0 slotSubscription := by
  have found : ((start countingIds).run tightSettings slotOperations).subscriptions[0]? =
      some slotSubscription := by
    rw [slotOperations, run_cons, perform_register_of_free rfl]
    rfl
  exact ⟨found, delivers_run found⟩

end LedgerClient.Session
