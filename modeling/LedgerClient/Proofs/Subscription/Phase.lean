import LedgerClient.Proofs.Subscription.Remembered

/-! # How the server is told of an end

The server's id may come before the end of a subscription or after it, so a subscription is in
one of four phases (`LedgerClient.FrameReader.Phase`): it is live; it was given up and the id is
awaited; the server has been told; or nothing is left to be told. Every stride of the reader and
the holders leads from phase to phase (`LedgerClient.FrameReader.Standing.step`). So the server is
told once, if it gave its id and the subscription was ended, and else not at all
(`LedgerClient.FrameReader.farewellsOnce_run`).

Whether a subscription was given up, and whether its id is still awaited, is said of what has
happened (`LedgerClient.FrameReader.Awaited`); the session remembers just these requests
(`LedgerClient.FrameReader.remembered_iff_awaited`). An id that the server gives settles a request,
and so does a failure when the reader is done with it. A failure that has found the request live
ends a live subscription and does nothing else, so one that is overtaken by the holder settles
nothing, and an id that comes after it is still told. A failure that has found nothing settles the
request that it names, even if that has been made and given up while the reader was about it.
-/

namespace LedgerClient.FrameReader

open Session (farewell place_eq)
open Sequence (exists_split_concat_iff eq_of_getElem?_concat)

variable {α : Type}

namespace Moment

/-- The request that a moment is about. -/
def subject? (moment : Moment α) : Option UInt64 :=
  moment.operation?.bind (·.subject? moment.reader.session)

/-- What a moment says to the server about the subscription at a place. -/
def farewells (settings : ClientSettings) (place : Nat) (moment : Moment α) :
    List SocketRequest :=
  match moment.reader.session.subscriptions[place]? with
  | some subscription =>
    if moment.subject? = some subscription.requestId then (moment.request? settings).toList else []
  | none => []

/-- A moment ends the subscription at a place: its holder does, or there is a reason. -/
def Ends (place : Nat) (moment : Moment α) : Prop :=
  ∃ operation, moment.operation? = some operation ∧
    moment.reader.session.Ends operation place

/-- The holder of a live subscription gives it up before the server has given its id. -/
structure GivesUp (place : Nat) (moment : Moment α) : Prop where
  byHolder : moment.stride = .does (.unsubscribe place)
  live : moment.reader.session.Live place
  unnamed : ∃ subscription, moment.reader.session.subscriptions[place]? = some subscription ∧
    subscription.serverId = none

/-- The server's id is not awaited any more for a request. -/
inductive Settles (requestId : UInt64) (moment : Moment α) : Prop
  | answered {result serverId} (frame : moment.frame? = some (.response requestId result))
      (word : result.asWord? = some serverId)
  /-- The reader is done with a failure of the request, which it has not found live. -/
  | failed (forgets : moment.Forgets requestId)
  | ended {reason} (lost : moment.stride = .does (.failAll reason))

end Moment

/-- After some moments, the server's id is awaited for a request: its subscription was given up,
and nothing has settled it since. -/
def Awaited (moments : List (Moment α)) (place : Nat) (requestId : UInt64) : Prop :=
  ∃ front moment back, moments = front ++ moment :: back ∧ moment.GivesUp place ∧
    ∀ later ∈ back, ¬ later.Settles requestId

/-- After some moments, the server gives an id to the subscription at a place, which is live or
awaited. -/
def Gives (moments : List (Moment α)) (moment : Moment α) (place : Nat) (serverId : UInt64) :
    Prop :=
  ∃ subscription result, moment.reader.session.subscriptions[place]? = some subscription ∧
    moment.frame? = some (.response subscription.requestId result) ∧
      result.asWord? = some serverId ∧
        (moment.reader.session.Live place ∨ Awaited moments place subscription.requestId)

/-- The server has given an id to the subscription at a place. -/
def Given (moments : List (Moment α)) (place : Nat) (serverId : UInt64) : Prop :=
  ∃ front moment back, moments = front ++ moment :: back ∧ Gives front moment place serverId

/-- The id that the server has given first to the subscription at a place. -/
def GivenFirst (moments : List (Moment α)) (place : Nat) (serverId : UInt64) : Prop :=
  ∃ front moment back, moments = front ++ moment :: back ∧ Gives front moment place serverId ∧
    ∀ earlier, ¬ Given front place earlier

variable {settings : ClientSettings} {moments : List (Moment α)} {moment : Moment α}
  {operation : Session.Operation α} {session after : Session α} {place : Nat}
  {subscription next : Subscription α} {requestId serverId : UInt64} {result : Json}
  {said : List SocketRequest} {request : SocketRequest} {given : UInt64 → Prop}
  {awaited ended settled : Prop}

/-! ### One more moment -/

private theorem awaited_concat : Awaited (moments ++ [moment]) place requestId ↔
    moment.GivesUp place ∨ Awaited moments place requestId ∧ ¬ moment.Settles requestId := by
  rw [Awaited, exists_split_concat_iff,
    and_iff_left (fun _ behind => (List.not_mem_nil behind).elim)]
  refine or_congr_right ?_
  simp only [List.forall_mem_append, List.forall_mem_singleton]
  constructor
  · rintro ⟨front, entry, back, split, givesUp, unsettled, last⟩
    exact ⟨⟨front, entry, back, split, givesUp, unsettled⟩, last⟩
  · rintro ⟨⟨front, entry, back, split, givesUp, unsettled⟩, last⟩
    exact ⟨front, entry, back, split, givesUp, unsettled, last⟩

private theorem given_concat : Given (moments ++ [moment]) place serverId ↔
    Gives moments moment place serverId ∨ Given moments place serverId :=
  exists_split_concat_iff

/-- What has been given has been given first at some moment. -/
theorem forall_not_given_iff :
    (∀ serverId, ¬ Given moments place serverId) ↔
      ∀ serverId, ¬ GivenFirst moments place serverId := by
  constructor
  · rintro never serverId ⟨front, moment, back, split, gives, _⟩
    exact never serverId ⟨front, moment, back, split, gives⟩
  · intro never
    induction moments using List.reverseRecOn with
    | nil =>
        rintro _ ⟨_, _, _, impossible, _⟩
        exact List.append_ne_nil_of_right_ne_nil _ (List.cons_ne_nil _ _) impossible.symm
    | append_singleton moments moment ih =>
        have before : ∀ serverId, ¬ Given moments place serverId := by
          refine ih fun serverId first => ?_
          obtain ⟨front, entry, back, rfl, here⟩ := first
          exact never serverId ⟨front, entry, back ++ [moment], List.append_assoc .., here⟩
        intro serverId given
        rcases given_concat.mp given with now | early
        · exact never serverId ⟨moments, moment, [], rfl, now, before⟩
        · exact before serverId early

private theorem givenFirst_concat : GivenFirst (moments ++ [moment]) place serverId ↔
    GivenFirst moments place serverId ∨
      Gives moments moment place serverId ∧ ∀ earlier, ¬ GivenFirst moments place earlier := by
  rw [GivenFirst, exists_split_concat_iff, or_comm, ← forall_not_given_iff]
  rfl

/-! ### What concerns one subscription -/

namespace Moment

private theorem farewells_of_absent (absent : moment.reader.session.subscriptions[place]? = none) :
    moment.farewells settings place = [] := by
  simp only [farewells, absent]

private theorem farewells_of_subject
    (found : moment.reader.session.subscriptions[place]? = some subscription)
    (about : moment.subject? = some subscription.requestId) :
    moment.farewells settings place = (moment.request? settings).toList := by
  simp only [farewells, found, about, if_true]

private theorem farewells_of_elsewhere
    (found : moment.reader.session.subscriptions[place]? = some subscription)
    (elsewhere : moment.subject? ≠ some subscription.requestId) :
    moment.farewells settings place = [] := by
  simp only [farewells, found, elsewhere, if_false]

private theorem subject?_of_operation? (does : moment.operation? = some operation) :
    moment.subject? = operation.subject? moment.reader.session := by
  rw [subject?, does, Option.bind_some]

/-- Nothing but an answer and the end of the session is a whole operation that settles a request. -/
theorem not_settles_of_operation? (does : moment.operation? = some operation)
    (unanswered : ∀ result, ¬ operation.Answers requestId result)
    (lasts : ∀ reason, operation ≠ .failAll reason) : ¬ moment.Settles requestId := by
  intro settles
  cases settles with
  | answered frame =>
      obtain ⟨_, same, answers⟩ := exists_answers frame
      cases does.symm.trans same
      exact unanswered _ answers
  | failed forgets => cases does.symm.trans forgets.operation?_eq
  | @ended reason lost =>
      have same : moment.operation? = some (.failAll reason) := by
        simp only [operation?, lost]
      cases does.symm.trans same
      exact lasts _ rfl

private theorem not_settles_of_idle (idle : moment.operation? = none)
    (kept : ¬ moment.Forgets requestId) : ¬ moment.Settles requestId := by
  intro settles
  cases settles with
  | answered frame =>
      obtain ⟨_, same, _⟩ := exists_answers frame
      cases idle.symm.trans same
  | failed forgets => exact kept forgets
  | ended lost =>
      simp only [operation?, lost] at idle
      cases idle

private theorem Ends.unanswered (ends : moment.Ends place) :
    moment.frame? ≠ some (.response requestId result) := by
  intro frame
  obtain ⟨_, does, _, rfl | ⟨_, _, rfl, _⟩⟩ := ends
  all_goals
    obtain ⟨_, same, _, rfl, _⟩ := exists_answers frame
    cases does.symm.trans same

end Moment

/-- Nothing is said about a request, and it is remembered as it was, unless it is settled. -/
structure Moment.Passes (moment : Moment α) (requestId : UInt64) (after : Session α)
    (request : Option SocketRequest) : Prop where
  unsaid : moment.subject? = some requestId → request = none
  cancelled : moment.Settles requestId ∧ after.cancelled.find? requestId = none ∨
    ¬ moment.Settles requestId ∧
      after.cancelled.find? requestId = moment.reader.session.cancelled.find? requestId

section Passing

variable (consistent : moment.reader.session.Consistent) (untold : moment.reader.session.Untold)
  (distinct : moment.reader.session.requestIds.Nodup)
  (found : moment.reader.session.subscriptions[place]? = some subscription)
  (unended : ¬ moment.Ends place)
  (unanswered : ∀ result, moment.frame? ≠ some (.response subscription.requestId result))

include consistent untold distinct found unended unanswered

/-- A whole operation passes by a subscription that it neither ends nor answers. -/
theorem Moment.passes_of_operation? (does : moment.operation? = some operation) :
    moment.Passes subscription.requestId (moment.reader.session.perform settings operation).1
      (moment.reader.session.perform settings operation).2 := by
  have silent : ∀ result, ¬ operation.Answers subscription.requestId result :=
    fun result answers => unanswered result (Moment.frame?_of_answers does answers)
  have subject := Moment.subject?_of_operation? does
  -- Whatever is said or remembered is about another subscription, with another request id.
  cases consistent.speaks settings distinct (Moment.isWhole_of_operation? does) with
  | @ends there ends =>
      obtain ⟨_, known⟩ := ends.1
      obtain ⟨neighbour, present, _⟩ := consistent.requested _ _ known
      have elsewhere : subscription.requestId ≠ neighbour.requestId := fun same =>
        unended ⟨operation, does, place_eq distinct found present same ▸ ends⟩
      obtain ⟨about, _, _, cancelled⟩ := consistent.perform_of_ends settings untold present ends
      refine ⟨fun same => ?_, .inr ⟨?_, ?_⟩⟩
      · rw [subject, about] at same
        exact (elsewhere (Option.some.inj same).symm).elim
      · refine Moment.not_settles_of_operation? does silent ?_
        rintro reason rfl
        obtain ⟨_, impossible | ⟨_, _, impossible, _⟩⟩ := ends
        · cases impossible
        · cases impossible
      · rcases cancelled with ⟨_, kept⟩ | ⟨_, _, awaits⟩
        · rw [kept]
        · rw [awaits, IdTable.find?_insert, if_neg elsewhere]
  | late answers _ _ done =>
      have elsewhere : operation.subject? moment.reader.session ≠
          some subscription.requestId := by
        rw [answers.subject?_eq]
        intro same
        cases same
        exact silent _ answers
      refine ⟨fun same => (elsewhere (subject.symm.trans same)).elim, .inr ⟨?_, ?_⟩⟩
      · refine Moment.not_settles_of_operation? does silent ?_
        obtain ⟨_, rfl, _⟩ := answers
        exact nofun
      · rw [done]
        refine IdTable.find?_erase.trans (if_neg fun same => elsewhere ?_)
        rw [answers.subject?_eq, same]
  | @lost reason lost =>
      subst lost
      have stride := Moment.stride_of_unclosed does fun _ _ same => by cases same
      exact ⟨fun _ => rfl, .inl ⟨.ended stride, rfl⟩⟩
  | silent request cancelled lasts =>
      refine ⟨fun about => request ?_, .inr ⟨?_, ?_⟩⟩
      · rintro topic rfl
        cases subject.symm.trans about
      · exact Moment.not_settles_of_operation? does silent lasts
      · rw [cancelled]

/-- **Every move passes by a subscription** that it neither ends nor answers. -/
theorem Moves.passes {reader : FrameReader α} {request : Option SocketRequest}
    (moves : Moves settings moment reader request) :
    moment.Passes subscription.requestId reader.session request := by
  have kept {place : Nat} {result : Json} (delivers : moment.Delivers place result) :
      ¬ moment.Settles subscription.requestId := by
    refine Moment.not_settles_of_idle delivers.operation?_eq fun forgets => ?_
    obtain ⟨_, _, busy⟩ := forgets
    cases delivers.2.symm.trans busy
  cases moves with
  | rests idle _ done =>
      refine ⟨fun _ => rfl, .inr ⟨Moment.not_settles_of_idle idle fun forgets => ?_, rfl⟩⟩
      obtain ⟨stride, _, busy⟩ := forgets
      cases (done stride).symm.trans busy
  | looksUp idle taken =>
      refine ⟨fun _ => rfl, .inr ⟨Moment.not_settles_of_idle idle fun forgets => ?_, rfl⟩⟩
      cases (Moment.stride_of_bytes? taken).1.symm.trans forgets.1
  | misses delivers | refuses delivers | delivers delivers =>
      exact ⟨fun _ => rfl, .inr ⟨kept delivers, rfl⟩⟩
  | @forgets other forgets =>
      refine ⟨fun _ => rfl, ?_⟩
      by_cases same : subscription.requestId = other
      · exact .inl ⟨same ▸ .failed forgets, IdTable.find?_erase.trans (if_pos same)⟩
      · refine .inr ⟨Moment.not_settles_of_idle forgets.operation?_eq fun also => ?_,
          IdTable.find?_erase.trans (if_neg same)⟩
        obtain ⟨_, _, busy⟩ := also
        obtain ⟨_, _, own⟩ := forgets
        cases busy.symm.trans own
        exact same rfl
  | performs _ does =>
      exact Moment.passes_of_operation? consistent untold distinct found unended unanswered does

end Passing

private theorem Turn.serverId_eq_of_unanswered (turn : Turn moment after place subscription next)
    (unanswered : ∀ result, moment.frame? ≠ some (.response subscription.requestId result)) :
    next.serverId = subscription.serverId := by
  cases turn with
  | performs does turn =>
      exact turn.serverId_eq_of_unanswered fun result answers =>
        unanswered result (Moment.frame?_of_answers does answers)
  | delivered _ done => exact (Subscription.keeps_of_deliver done).2
  | rests => rfl

/-! ### The phases of a subscription -/

/-- How far a subscription is with the server, when these farewells have been said for it, this id
has been given first, it may be awaited and it may have been ended. -/
inductive Phase (session : Session α) (place : Nat) (subscription : Subscription α)
    (farewells : List SocketRequest) (given : UInt64 → Prop) (awaited ended : Prop) : Prop
  | live (live : session.Live place)
      (forgotten : session.cancelled.find? subscription.requestId = none)
      (unsaid : farewells = []) (named : ∀ id, given id ↔ subscription.serverId = some id)
      (unawaited : ¬ awaited) (unended : ¬ ended)
  /-- It was given up, and the server's id is still to come. -/
  | awaited (gone : ¬ session.Live place)
      (remembered : session.cancelled.find? subscription.requestId =
        some subscription.unsubscribeMethod)
      (unsaid : farewells = []) (unnamed : ∀ id, ¬ given id) (isAwaited : awaited)
      (isEnded : ended)
  | told (serverId : UInt64) (gone : ¬ session.Live place)
      (forgotten : session.cancelled.find? subscription.requestId = none)
      (said : ∃ id, farewells = [farewell subscription.unsubscribeMethod serverId id])
      (named : ∀ id, given id ↔ serverId = id) (unawaited : ¬ awaited) (isEnded : ended)
  /-- Nothing is left to be said. -/
  | silent (gone : ¬ session.Live place)
      (forgotten : session.cancelled.find? subscription.requestId = none)
      (unsaid : farewells = []) (unawaited : ¬ awaited) (never : (∀ id, ¬ given id) ∨ ¬ ended)

/-- A moment that says nothing about a subscription, and does not answer its request. -/
theorem Phase.rest (phase : Phase session place subscription said given awaited ended)
    (live : after.Live place → session.Live place)
    (cancelled : settled ∧ after.cancelled.find? subscription.requestId = none ∨
      ¬ settled ∧ after.cancelled.find? subscription.requestId =
        session.cancelled.find? subscription.requestId)
    (keeps : next.requestId = subscription.requestId ∧
      next.unsubscribeMethod = subscription.unsubscribeMethod ∧
        next.serverId = subscription.serverId) :
    Phase after place next said given (awaited ∧ ¬ settled) ended := by
  obtain ⟨sameRequest, method, server⟩ := keeps
  rw [← sameRequest] at cancelled
  have forgotten (before : session.cancelled.find? subscription.requestId = none) :
      after.cancelled.find? next.requestId = none := by
    rcases cancelled with ⟨_, none⟩ | ⟨_, kept⟩
    · exact none
    · rw [kept, sameRequest, before]
  cases phase with
  | live alive before unsaid named unawaited unended =>
      have still : ¬ (awaited ∧ ¬ settled) := fun waits => unawaited waits.1
      by_cases stays : after.Live place
      · exact .live stays (forgotten before) unsaid (server ▸ named) still unended
      · exact .silent stays (forgotten before) unsaid still (.inr unended)
  | awaited gone owed unsaid unnamed isAwaited isEnded =>
      have left := fun still => gone (live still)
      rcases cancelled with ⟨settles, none⟩ | ⟨unsettled, kept⟩
      · exact .silent left none unsaid (fun waits => waits.2 settles) (.inl unnamed)
      · refine .awaited left ?_ unsaid unnamed ⟨isAwaited, unsettled⟩ isEnded
        rw [kept, sameRequest, method, owed]
  | told serverId gone before told named unawaited isEnded =>
      exact .told serverId (fun still => gone (live still)) (forgotten before) (method ▸ told) named
        (fun waits => unawaited waits.1) isEnded
  | silent gone before unsaid unawaited never =>
      exact .silent (fun still => gone (live still)) (forgotten before) unsaid
        (fun waits => unawaited waits.1) never

/-- The id of a live subscription is not awaited. -/
theorem Phase.unawaited_of_live
    (phase : Phase session place subscription said given awaited ended)
    (live : session.Live place) : ¬ awaited := by
  cases phase with
  | live _ _ _ _ unawaited => exact unawaited
  | awaited gone | told _ gone | silent gone => exact (gone live).elim

/-- The end of a subscription is told at once where the server's id is known. -/
theorem Phase.of_ends (phase : Phase session place subscription said given awaited ended)
    (consistent : session.Consistent) (settings : ClientSettings) (untold : session.Untold)
    (found : session.subscriptions[place]? = some subscription)
    (ends : session.Ends operation place)
    (keeps : next.requestId = subscription.requestId ∧
      next.unsubscribeMethod = subscription.unsubscribeMethod) :
    Phase (session.perform settings operation).1 place next
      (said ++ (session.perform settings operation).2.toList) given
      (operation = .unsubscribe place ∧ subscription.serverId = none) True := by
  obtain ⟨_, gone, request, cancelled⟩ := consistent.perform_of_ends settings untold found ends
  obtain ⟨sameRequest, method⟩ := keeps
  rw [request]
  -- An end finds the subscription live.
  cases phase with
  | awaited dead | told _ dead | silent dead => exact (dead ends.1).elim
  | live _ before unsaid named =>
      rw [unsaid, List.nil_append]
      rcases cancelled with ⟨other, kept⟩ | ⟨asked, unnamed, awaits⟩
      · have forgotten : (session.perform settings operation).1.cancelled.find? next.requestId =
            none := by rw [kept, sameRequest, before]
        have unawaited : ¬ (operation = .unsubscribe place ∧ subscription.serverId = none) :=
          fun waits => other waits.1 waits.2
        cases server : subscription.serverId with
        | some serverId =>
            rw [server] at named unawaited
            refine .told serverId gone forgotten ⟨session.ids.draw.1, ?_⟩ (fun id => ?_) unawaited
              trivial
            · rw [method]
              rfl
            · rw [named, Option.some.injEq]
        | none =>
            rw [server] at named unawaited
            exact .silent gone forgotten rfl unawaited (.inl fun id first => by
              cases (named id).mp first)
      · rw [unnamed]
        refine .awaited gone ?_ rfl (fun id first => ?_) ⟨asked, rfl⟩ trivial
        · rw [awaits, sameRequest, method, IdTable.find?_insert, if_pos rfl]
        · cases unnamed.symm.trans ((named id).mp first)

/-! ### From phase to phase -/

/-- A subscription is in a phase, and the id it has is the one that was given first. -/
structure Standing (settings : ClientSettings) (moments : List (Moment α)) (session : Session α)
    (place : Nat) (subscription : Subscription α) : Prop where
  phase : Phase session place subscription (moments.flatMap (·.farewells settings place))
    (GivenFirst moments place) (Awaited moments place subscription.requestId)
    (∃ moment ∈ moments, moment.Ends place)
  named : ∀ id, subscription.serverId = some id → GivenFirst moments place id

private theorem Standing.concat
    (phase : Phase session place subscription
      (moments.flatMap (·.farewells settings place) ++ moment.farewells settings place)
      (fun id => GivenFirst moments place id ∨
        Gives moments moment place id ∧ ∀ earlier, ¬ GivenFirst moments place earlier)
      (moment.GivesUp place ∨ Awaited moments place subscription.requestId ∧
        ¬ moment.Settles subscription.requestId)
      ((∃ moment ∈ moments, moment.Ends place) ∨ moment.Ends place))
    (named : ∀ id, subscription.serverId = some id → GivenFirst moments place id ∨
      Gives moments moment place id ∧ ∀ earlier, ¬ GivenFirst moments place earlier) :
    Standing settings (moments ++ [moment]) session place subscription := by
  have first : GivenFirst (moments ++ [moment]) place = _ :=
    funext fun _ => propext givenFirst_concat
  refine ⟨?_, first ▸ named⟩
  simp only [first, awaited_concat, List.flatMap_append, List.flatMap_singleton, List.mem_append,
    List.mem_singleton, or_and_right, exists_or, exists_eq_left]
  exact phase

private theorem gives_iff (found : moment.reader.session.subscriptions[place]? = some subscription)
    (frame : moment.frame? = some (.response subscription.requestId result)) :
    Gives moments moment place serverId ↔ result.asWord? = some serverId ∧
      (moment.reader.session.Live place ∨ Awaited moments place subscription.requestId) := by
  constructor
  · rintro ⟨_, _, present, same, word, heard⟩
    cases found.symm.trans present
    cases frame.symm.trans same
    exact ⟨word, heard⟩
  · rintro ⟨word, heard⟩
    exact ⟨subscription, result, found, frame, word, heard⟩

private theorem Moment.settles_iff (frame : moment.frame? = some (.response requestId result)) :
    moment.Settles requestId ↔ result.asWord? ≠ none := by
  constructor
  · intro settles
    obtain ⟨_, does, bytes, rfl, _⟩ := exists_answers frame
    cases settles with
    | answered same word =>
        cases frame.symm.trans same
        exact word ▸ Option.some_ne_none _
    | failed forgets => cases does.symm.trans forgets.operation?_eq
    | ended lost =>
        rcases stride_of_operation? does with stride | ⟨stride, _⟩
        · cases lost.symm.trans stride
        · cases lost.symm.trans stride
  · intro word
    obtain ⟨serverId, word⟩ := Option.ne_none_iff_exists'.mp word
    exact .answered frame word

private theorem Moment.givesUp_iff (does : moment.operation? = some operation)
    (found : moment.reader.session.subscriptions[place]? = some subscription)
    (live : moment.reader.session.Live place) :
    moment.GivesUp place ↔ operation = .unsubscribe place ∧ subscription.serverId = none := by
  constructor
  · rintro ⟨stride, _, _, present, unnamed⟩
    cases found.symm.trans present
    simp only [operation?, stride, Option.some.injEq] at does
    exact ⟨does.symm, unnamed⟩
  · rintro ⟨rfl, unnamed⟩
    have stride := stride_of_unclosed does fun _ _ same => by cases same
    exact ⟨stride, live, subscription, found, unnamed⟩

/-- An answer is about its request, and ends nothing. -/
theorem Moment.of_answers (does : moment.operation? = some operation)
    (answers : operation.Answers requestId result) (place : Nat) :
    moment.subject? = some requestId ∧ ¬ moment.Ends place ∧ ¬ moment.GivesUp place := by
  refine ⟨(subject?_of_operation? does).trans answers.subject?_eq,
    fun ends => ends.unanswered (frame?_of_answers does answers), ?_⟩
  rintro ⟨stride, _⟩
  obtain ⟨_, rfl, _⟩ := answers
  simp only [operation?, stride] at does
  cases does

namespace Standing

variable (standing : Standing settings moments moment.reader.session place subscription)
  (consistent : moment.reader.session.Consistent)
  (found : moment.reader.session.subscriptions[place]? = some subscription)

include standing found

/-- An answer that gives no id, or gives it to nobody. -/
theorem of_unheard (does : moment.operation? = some operation)
    (answers : operation.Answers subscription.requestId result)
    (done : moment.reader.session.perform settings operation = (moment.reader.session, none))
    (unheard : ∀ id, ¬ Gives moments moment place id)
    (forgotten : moment.Settles subscription.requestId →
      moment.reader.session.cancelled.find? subscription.requestId = none) :
    ∃ next, (moment.after settings).session.subscriptions[place]? = some next ∧
      Standing settings (moments ++ [moment]) (moment.after settings).session place next := by
  obtain ⟨after, request⟩ := Moment.after_of_operation? settings does
  obtain ⟨about, unended, kept⟩ := Moment.of_answers does answers place
  rw [done] at after request
  rw [after]
  refine ⟨subscription, found, .concat ?_ fun id same => .inl (standing.named id same)⟩
  rw [Moment.farewells_of_subject found about, request, Option.toList, List.append_nil]
  simp only [unheard, false_and, or_false, unended, kept, false_or]
  refine standing.phase.rest id ?_ ⟨rfl, rfl, rfl⟩
  by_cases settles : moment.Settles subscription.requestId
  · exact .inl ⟨settles, forgotten settles⟩
  · exact .inr ⟨settles, rfl⟩

include consistent

/-- An answer gives a live subscription its id, unless it has one. -/
theorem of_answers_of_live (live : moment.reader.session.Live place)
    (does : moment.operation? = some operation) (word : result.asWord? = some serverId)
    (answers : operation.Answers subscription.requestId result) :
    ∃ next, (moment.after settings).session.subscriptions[place]? = some next ∧
      Standing settings (moments ++ [moment]) (moment.after settings).session place next := by
  have known := (consistent.live_iff found).mp live
  have gives (id : UInt64) : Gives moments moment place id ↔ serverId = id := by
    rw [gives_iff found (Moment.frame?_of_answers does answers), word, Option.some.injEq]
    exact and_iff_left (.inl live)
  obtain ⟨after, request⟩ := Moment.after_of_operation? settings does
  obtain ⟨about, unended, kept⟩ := Moment.of_answers does answers place
  rw [answers.perform_eq settings, Session.acknowledge_of_known found known word] at after request
  rw [after]
  obtain ⟨phase, early⟩ := standing
  cases phase with
  | awaited gone | told _ gone | silent gone => exact (gone live).elim
  | live _ forgotten unsaid named unawaited unlost =>
      have unsaidNow : moments.flatMap (·.farewells settings place) ++
          moment.farewells settings place = [] := by
        rw [unsaid, Moment.farewells_of_subject found about, request]
        rfl
      have calm : ¬ (moment.GivesUp place ∨ Awaited moments place subscription.requestId ∧
          ¬ moment.Settles subscription.requestId) := by
        rintro (givesUp | waits)
        · exact kept givesUp
        · exact unawaited waits.1
      cases server : subscription.serverId with
      | some old =>
          refine ⟨subscription, found, .concat (.live live forgotten unsaidNow (fun id => ?_) calm
            (not_or.mpr ⟨unlost, unended⟩)) fun id same => .inl (early id same)⟩
          rw [← named]
          exact or_iff_left fun now => now.2 old (early old server)
      | none =>
          have first (id : UInt64) : (GivenFirst moments place id ∨ Gives moments moment place id ∧
              ∀ earlier, ¬ GivenFirst moments place earlier) ↔ some serverId = some id := by
            have fresh (earlier : UInt64) : ¬ GivenFirst moments place earlier := by
              rw [named, server]
              exact nofun
            rw [gives, or_iff_right (fresh id), and_iff_left fresh, Option.some.injEq]
          exact ⟨{ subscription with serverId := some serverId },
            Session.getElem?_update_self found, .concat (.live live forgotten unsaidNow first calm
              (not_or.mpr ⟨unlost, unended⟩)) fun id same => (first id).mpr same⟩

/-- An answer lets the server be told of what was given up. -/
theorem of_answers_of_not_live (distinct : moment.reader.session.requestIds.Nodup)
    (gone : ¬ moment.reader.session.Live place) (does : moment.operation? = some operation)
    (word : result.asWord? = some serverId)
    (answers : operation.Answers subscription.requestId result) :
    ∃ next, (moment.after settings).session.subscriptions[place]? = some next ∧
      Standing settings (moments ++ [moment]) (moment.after settings).session place next := by
  have frame := Moment.frame?_of_answers does answers
  have unknown := consistent.unknown_of_not_live distinct found gone
  have gives (id : UInt64) : Gives moments moment place id ↔
      serverId = id ∧ Awaited moments place subscription.requestId := by
    rw [gives_iff found frame, word, Option.some.injEq, or_iff_right gone]
  have done := (answers.perform_eq settings).trans (Session.acknowledge_of_unknown unknown word)
  cases standing.phase with
  | live live => exact (gone live).elim
  | awaited _ owed unsaid unnamed isAwaited isEnded =>
      obtain ⟨after, request⟩ := Moment.after_of_operation? settings does
      obtain ⟨about, unended, kept⟩ := Moment.of_answers does answers place
      simp only [done, owed] at after request
      have settles := (Moment.settles_iff frame).mpr (word ▸ Option.some_ne_none serverId)
      rw [after]
      refine ⟨subscription, found, .concat (.told serverId gone ?forgotten ?said (fun id => ?first)
        ?unawaited (.inl isEnded)) fun id same => .inl (standing.named id same)⟩
      case forgotten => exact IdTable.find?_erase.trans (if_pos rfl)
      case said =>
        rw [unsaid, Moment.farewells_of_subject found about, request]
        exact ⟨_, rfl⟩
      case first =>
        rw [gives, or_iff_right (unnamed id), and_iff_left unnamed, and_iff_left isAwaited]
      case unawaited =>
        rintro (givesUp | waits)
        · exact kept givesUp
        · exact waits.2 settles
  | told _ _ forgotten _ _ unawaited | silent _ forgotten _ unawaited =>
      simp only [forgotten] at done
      exact standing.of_unheard found does answers done
        (fun id now => unawaited ((gives id).mp now).2) fun _ => forgotten

/-- **Every moment leads from phase to phase.** -/
theorem step (untold : moment.reader.session.Untold)
    (distinct : moment.reader.session.requestIds.Nodup) :
    ∃ next, (moment.after settings).session.subscriptions[place]? = some next ∧
      Standing settings (moments ++ [moment]) (moment.after settings).session place next := by
  -- An answer ends nothing, so at most one of both concerns this subscription.
  by_cases answered : ∃ result, moment.frame? = some (.response subscription.requestId result)
  · obtain ⟨result, frame⟩ := answered
    obtain ⟨operation, does, answers⟩ := Moment.exists_answers frame
    cases word : result.asWord? with
    | none =>
        refine standing.of_unheard found does answers ?_ (fun id now => ?_) fun settles => ?_
        · rw [answers.perform_eq settings, Session.acknowledge, word]
        · cases word.symm.trans ((gives_iff found frame).mp now).1
        · exact ((Moment.settles_iff frame).mp settles word).elim
    | some serverId =>
        by_cases live : moment.reader.session.Live place
        · exact standing.of_answers_of_live consistent found live does word answers
        · exact standing.of_answers_of_not_live consistent found distinct live does word answers
  · have unanswered := not_exists.mp answered
    have ungiven (id : UInt64) : ¬ Gives moments moment place id := by
      rintro ⟨_, result, present, frame, _⟩
      cases found.symm.trans present
      exact unanswered result frame
    have moves := moves_advance settings moment
    obtain ⟨next, present, turn⟩ := moves.turn consistent found
    have sameRequest := turn.keeps.requestId
    have method := turn.unsubscribeMethod_eq
    have unnamed := turn.serverId_eq_of_unanswered unanswered
    refine ⟨next, present, .concat ?phase fun id same => .inl (standing.named id (unnamed ▸ same))⟩
    simp only [ungiven, false_and, or_false, sameRequest]
    by_cases ends : moment.Ends place
    · have last : (∃ moment ∈ moments, moment.Ends place) ∨ moment.Ends place := .inr ends
      obtain ⟨operation, does, ended⟩ := ends
      obtain ⟨about, _⟩ := consistent.perform_of_ends settings untold found ended
      obtain ⟨after, request⟩ := Moment.after_of_operation? settings does
      have unawaited := standing.phase.unawaited_of_live ended.1
      have phase := standing.phase.of_ends consistent settings untold found ended
        ⟨sameRequest, method⟩
      rw [Moment.farewells_of_subject found ((Moment.subject?_of_operation? does).trans about),
        after, request, or_iff_left fun waits => unawaited waits.1,
        Moment.givesUp_iff does found ended.1, eq_true last]
      exact phase
    · obtain ⟨unsaid, cancelled⟩ :=
        moves.passes consistent untold distinct found ends unanswered
      have mute : moment.farewells settings place = [] := by
        by_cases about : moment.subject? = some subscription.requestId
        · rw [Moment.farewells_of_subject found about, unsaid about]
          rfl
        · exact Moment.farewells_of_elsewhere found about
      have kept : ¬ moment.GivesUp place := by
        rintro ⟨stride, live, _⟩
        refine ends ⟨.unsubscribe place, ?_, live, .inl rfl⟩
        simp only [Moment.operation?, stride]
      rw [mute, List.append_nil, or_iff_left ends, or_iff_right kept]
      exact standing.phase.rest turn.live_of_live cancelled ⟨sameRequest, method, unnamed⟩

end Standing

/-! ### A whole run -/

/-- Before a subscription is asked for, nothing is said or known of it. -/
structure Unasked (settings : ClientSettings) (moments : List (Moment α)) (place : Nat) :
    Prop where
  unsaid : moments.flatMap (·.farewells settings place) = []
  ungiven : ∀ serverId, ¬ GivenFirst moments place serverId
  unawaited : ∀ requestId, ¬ Awaited moments place requestId
  unended : ¬ ∃ moment ∈ moments, moment.Ends place

private theorem unasked_nil (settings : ClientSettings) (place : Nat) :
    Unasked settings ([] : List (Moment α)) place where
  unsaid := rfl
  ungiven := by
    rintro _ ⟨_, _, _, impossible, _⟩
    cases List.append_ne_nil_of_right_ne_nil _ (List.cons_ne_nil _ _) impossible.symm
  unawaited := by
    rintro _ ⟨_, _, _, impossible, _⟩
    cases List.append_ne_nil_of_right_ne_nil _ (List.cons_ne_nil _ _) impossible.symm
  unended := by
    rintro ⟨_, ⟨⟩, _⟩

private theorem Moment.Ends.exists_of_ends (ends : moment.Ends place)
    (consistent : moment.reader.session.Consistent) :
    ∃ subscription, moment.reader.session.subscriptions[place]? = some subscription := by
  obtain ⟨_, _, ⟨_, known⟩, _⟩ := ends
  obtain ⟨subscription, found, _⟩ := consistent.requested _ _ known
  exact ⟨subscription, found⟩

/-- A subscription that is not there yet stays unasked. -/
theorem Unasked.concat (unasked : Unasked settings moments place)
    (consistent : moment.reader.session.Consistent)
    (absent : moment.reader.session.subscriptions[place]? = none) :
    Unasked settings (moments ++ [moment]) place where
  unsaid := by
    rw [List.flatMap_append, unasked.unsaid, List.flatMap_singleton,
      Moment.farewells_of_absent absent]
    rfl
  ungiven serverId := by
    rw [givenFirst_concat]
    rintro (early | ⟨⟨_, _, present, _⟩, _⟩)
    · exact unasked.ungiven serverId early
    · cases absent.symm.trans present
  unawaited requestId := by
    rw [awaited_concat]
    rintro (⟨_, _, _, present, _⟩ | ⟨early, _⟩)
    · cases absent.symm.trans present
    · exact unasked.unawaited requestId early
  unended := by
    simp only [List.mem_append, List.mem_singleton, or_and_right, exists_or, exists_eq_left]
    rintro (early | ends)
    · exact unasked.unended early
    · obtain ⟨_, present⟩ := ends.exists_of_ends consistent
      cases absent.symm.trans present

/-- Who is asked for is live, and has said and heard nothing yet. -/
theorem Unasked.standing (unasked : Unasked settings moments place) (live : session.Live place)
    (forgotten : session.cancelled.find? subscription.requestId = none)
    (unnamed : subscription.serverId = none) :
    Standing settings moments session place subscription := by
  refine ⟨.live live forgotten unasked.unsaid (fun id => ?_) (unasked.unawaited _)
    unasked.unended, fun id named => ?_⟩
  · rw [unnamed]
    exact iff_of_false (unasked.ungiven id) nofun
  · cases unnamed.symm.trans named

/-- What is known of the subscription at a place after some moments, whether it has been asked for
or not. -/
structure Stands (settings : ClientSettings) (moments : List (Moment α)) (session : Session α)
    (place : Nat) : Prop where
  absent : session.subscriptions[place]? = none → Unasked settings moments place
  present : ∀ subscription, session.subscriptions[place]? = some subscription →
    Standing settings moments session place subscription

/-- **One move** leads a subscription from where it stands to where it stands then. -/
theorem Stands.step (stands : Stands settings moments moment.reader.session place)
    (remembers : moment.reader.session.Remembers) (untold : moment.reader.session.Untold)
    (distinct : (moment.after settings).session.requestIds.Nodup) :
    Stands settings (moments ++ [moment]) (moment.after settings).session place := by
  have consistent := remembers.consistent
  have moves := moves_advance settings moment
  have distinctBefore := distinct.sublist (moves.requestIds_prefix consistent).sublist
  cases before : moment.reader.session.subscriptions[place]? with
  | some subscription =>
      obtain ⟨next, still, standing⟩ :=
        (stands.present subscription before).step consistent before untold distinctBefore
      refine ⟨fun absent => ?_, fun other present => ?_⟩
      · cases absent.symm.trans still
      · cases present.symm.trans still
        exact standing
  | none =>
      have unasked := (stands.absent before).concat consistent before
      refine ⟨fun _ => unasked, fun next present => ?_⟩
      obtain ⟨live, cancelled, unnamed, ids⟩ := moves.opened consistent before present
      refine unasked.standing live ?_ unnamed
      by_contra given
      rw [ids] at distinct
      exact List.disjoint_of_nodup_append distinct (remembers.made _ (cancelled ▸ given))
        (List.mem_singleton_self _)

private theorem stands_run {ids : IdSource} {strides : List (Stride α)}
    (distinct :
      ((start ids : FrameReader α).run settings strides).session.ids.Distinct) (place : Nat) :
    Stands settings ((start ids).history settings strides)
      ((start ids).run settings strides).session place := by
  induction strides using List.reverseRecOn with
  | nil => exact ⟨fun _ => unasked_nil settings place, nofun⟩
  | append_singleton strides stride ih =>
      have unrepeated :
          ((start ids : FrameReader α).run settings strides).session.requestIds.Nodup :=
        nodup_requestIds_run distinct
      have stillUnrepeated :
          ((start ids).run settings (strides ++ [stride])).session.requestIds.Nodup :=
        nodup_requestIds_run (by rwa [List.append_nil])
      rw [history_concat]
      rw [run_concat] at stillUnrepeated ⊢
      exact (ih (distinct_ids_run distinct)).step (remembers_run unrepeated)
        (untold_run settings ids strides) stillUnrepeated

/-- **The session remembers just the requests that are awaited.** -/
theorem remembered_iff_awaited {ids : IdSource} {strides : List (Stride α)}
    (distinct :
      ((start ids : FrameReader α).run settings strides).session.ids.Distinct)
    (found : ((start ids).run settings strides).session.subscriptions[place]? =
      some subscription) :
    ((start ids).run settings strides).session.cancelled.find? subscription.requestId ≠ none ↔
      Awaited ((start ids).history settings strides) place subscription.requestId := by
  cases ((stands_run distinct place).present subscription found).phase with
  | live _ forgotten _ _ unawaited | told _ _ forgotten _ _ unawaited
  | silent _ forgotten _ unawaited => exact iff_of_false (fun given => given forgotten) unawaited
  | awaited _ remembered _ _ isAwaited =>
      exact iff_of_true (remembered ▸ Option.some_ne_none _) isAwaited

open Session (slots tightSettings countingIds admission slotNotice)

end LedgerClient.FrameReader
