import LedgerClient.Proofs.Subscription.Interleaving

/-! # What a subscriber gets, whatever comes in between

A result is looked up with one lock and put in without it, so its subscription may be ended in
between. As there is one reader, the result that it has looked up is always the next one
(`LedgerClient.FrameReader.Shows`). So results are told in order and without a gap here too, and
after one that cannot be put in nothing is put in any more, even before the reader has closed the
subscription (`LedgerClient.FrameReader.delivers_interleaved`).
-/

namespace LedgerClient.FrameReader

variable {α : Type}

namespace Moment

/-- The result of a notification that is taken up, with the server's id of the subscription at a
place. -/
def heard (place : Nat) (moment : Moment α) : List Json :=
  match moment.bytes? with
  | some bytes => Session.Moment.heard place ⟨moment.reader.session, .dispatch bytes⟩
  | none => []

/-- The result that the holder of the subscription at a place gets. -/
def received (place : Nat) (moment : Moment α) : List α :=
  match moment.operation? with
  | some operation => Session.Moment.received place ⟨moment.reader.session, operation⟩
  | none => []

variable {moment : Moment α} {operation : Session.Operation α} {place : Nat}

private theorem heard_of_proceeds (stride : moment.stride = .proceeds) :
    moment.heard place = [] := by
  simp only [heard, bytes?, stride]

/-- What is done as a whole is not a notification. -/
theorem heard_of_operation? (does : moment.operation? = some operation) :
    moment.heard place = [] := by
  unfold heard
  split
  case h_1 bytes taken =>
    obtain ⟨stride, _⟩ := stride_of_bytes? taken
    rcases stride_of_operation? does with asked | ⟨impossible, _⟩
    · cases stride.symm.trans asked
      obtain ⟨_, _, _, parsed⟩ := operation?_dispatch_iff.mp does
      rcases Session.Moment.heard_eq_nil_or ⟨moment.reader.session, .dispatch bytes⟩ place with
        silent | ⟨_, _, _, _, same, notified, _⟩
      · exact silent
      · cases same
        cases parsed.symm.trans notified
    · cases stride.symm.trans impossible
  case h_2 => rfl

private theorem received_of_idle (idle : moment.operation? = none) :
    moment.received place = [] := by
  simp only [received, idle]

private theorem received_of_operation? (does : moment.operation? = some operation) :
    moment.received place = Session.Moment.received place ⟨moment.reader.session, operation⟩ := by
  simp only [received, does]

private theorem heard_of_absent (absent : moment.reader.session.subscriptions[place]? = none) :
    moment.heard place = [] := by
  unfold heard
  split
  · exact Session.Moment.heard_of_absent absent
  · rfl

private theorem received_of_absent (absent : moment.reader.session.subscriptions[place]? = none) :
    moment.received place = [] := by
  unfold received
  split
  · exact Session.Moment.received_of_absent absent
  · rfl

end Moment

variable {settings : ClientSettings} {moments : List (Moment α)} {moment : Moment α}
  {reader after : FrameReader α} {request : Option SocketRequest}
  {operation : Session.Operation α} {place : Nat} {subscription next : Subscription α}
  {shown : List Json} {reason : SubscriptionError}

/-- The first part of the notifications that went in. A result that is looked up is the next one,
and as long as the subscription is listed there is no other. -/
structure Shows (moments : List (Moment α)) (reader : FrameReader α) (place : Nat)
    (subscription : Subscription α) (shown : List Json) : Prop where
  first : shown <+: moments.flatMap (·.heard place)
  read : shown.map subscription.decode =
    (moments.flatMap (·.received place) ++ subscription.results.items).map .ok
  waiting : ∀ result, reader.errand = some (.deliver place result) →
    shown ++ [result] = moments.flatMap (·.heard place)
  all : reader.session.Listed place → (∀ result, reader.errand ≠ some (.deliver place result)) →
    (∀ reason, reader.errand ≠ some (.close subscription.requestId reason)) →
    shown = moments.flatMap (·.heard place)
  silent : subscription.serverId = none → moments.flatMap (·.heard place) = []

/-- A moment at which nothing goes in and nothing is heard. -/
theorem Shows.rest (shows : Shows moments moment.reader place subscription shown)
    (keeps : subscription.Keeps next)
    (flow : moment.received place ++ next.results.items = subscription.results.items)
    (unheard : moment.heard place = [])
    (waiting : ∀ result, after.errand = some (.deliver place result) →
      moment.reader.errand = some (.deliver place result))
    (all : after.session.Listed place → (∀ result, after.errand ≠ some (.deliver place result)) →
      (∀ reason, after.errand ≠ some (.close subscription.requestId reason)) →
      (moment.reader.session.Listed place ∨ subscription.serverId = none) ∧
        (∀ result, moment.reader.errand ≠ some (.deliver place result)) ∧
          ∀ reason, moment.reader.errand ≠ some (.close subscription.requestId reason))
    (named : next.serverId = none → subscription.serverId = none) :
    Shows (moments ++ [moment]) after place next shown := by
  have same : (moments ++ [moment]).flatMap (·.heard place) = moments.flatMap (·.heard place) := by
    rw [List.flatMap_append, List.flatMap_singleton, unheard, List.append_nil]
  refine ⟨same ▸ shows.first, ?read, fun result busy => ?waiting, fun listed deliver close => ?all,
    fun unnamed => same ▸ shows.silent (named unnamed)⟩
  case read =>
    rw [keeps.decode, shows.read, List.flatMap_append, List.flatMap_singleton, List.append_assoc,
      flow]
  case waiting =>
    rw [same]
    exact shows.waiting result (waiting result busy)
  case all =>
    rw [keeps.requestId] at close
    rw [same]
    obtain ⟨listed | unnamed, undelivered, unclosed⟩ := all listed deliver close
    · exact shows.all listed undelivered unclosed
    · have unheard := shows.first
      rw [shows.silent unnamed] at unheard ⊢
      exact List.prefix_nil.mp unheard

/-- What is left of an errand after a whole operation. -/
theorem Moment.not_close_of_performs (consistent : moment.reader.session.Consistent)
    (found : moment.reader.session.subscriptions[place]? = some subscription)
    (does : moment.operation? = some operation)
    (listed : (moment.reader.session.perform settings operation).1.Listed place)
    (kept : ∀ reason, moment.waiting? ≠ some (.close subscription.requestId reason)) :
    ∀ reason, moment.reader.errand ≠ some (.close subscription.requestId reason) := by
  intro reason busy
  rcases stride_of_operation? does with stride | ⟨_, requestId, cause, rfl, about⟩
  · exact kept reason (waiting?_eq_some_iff.mpr ⟨⟨_, stride⟩, busy⟩)
  · have consistentAfter :=
      consistent.step (consistent.step_perform settings (.close requestId cause))
    rcases about with rejects | closes
    · cases busy.symm.trans rejects
    · cases busy.symm.trans closes
      exact (consistent.perform_close settings found reason).1
        (consistentAfter.live_of_listed listed)

private theorem Moment.not_deliver_of_operation? (does : moment.operation? = some operation)
    (kept : ∀ result, moment.waiting? ≠ some (.deliver place result)) :
    ∀ result, moment.reader.errand ≠ some (.deliver place result) := by
  intro result busy
  rcases stride_of_operation? does with stride | ⟨_, _, _, _, about⟩
  · exact kept result (waiting?_eq_some_iff.mpr ⟨⟨_, stride⟩, busy⟩)
  · rcases about with rejects | closes
    · cases busy.symm.trans rejects
    · cases busy.symm.trans closes

/-- A whole operation puts nothing in. -/
theorem Moment.flows_of_operation? (consistent : moment.reader.session.Consistent)
    (found : moment.reader.session.subscriptions[place]? = some subscription)
    (does : moment.operation? = some operation)
    (turn : moment.reader.session.Turn (moment.reader.session.perform settings operation).1 place
      subscription operation next) :
    moment.received place ++ next.results.items = subscription.results.items ∧
      ((moment.reader.session.perform settings operation).1.Listed place →
        moment.reader.session.Listed place ∨ subscription.serverId = none) := by
  have consistentAfter := consistent.step (consistent.step_perform settings operation)
  rw [received_of_operation? does]
  rcases turn.flows consistent consistentAfter found with
    ⟨_, ⟨_, _, rfl, notified, _⟩, _⟩ | ⟨flow, hears⟩
  · obtain ⟨_, _, _, parsed⟩ := operation?_dispatch_iff.mp does
    cases parsed.symm.trans notified
  · exact ⟨flow, fun listed => (hears listed).1⟩

/-- The result that was looked up goes in, behind all others. -/
theorem Shows.delivers {result : Json}
    (shows : Shows moments moment.reader place subscription shown)
    (delivers : moment.Delivers place result) (done : subscription.deliver result = .ok next)
    (idle : after.errand = none) :
    Shows (moments ++ [moment]) after place next (shown ++ [result]) := by
  obtain ⟨value, _, read, items, _, rfl⟩ := Subscription.exists_of_deliver done
  have whole : shown ++ [result] = (moments ++ [moment]).flatMap (·.heard place) := by
    rw [List.flatMap_append, List.flatMap_singleton, Moment.heard_of_proceeds delivers.1,
      List.append_nil, shows.waiting result delivers.2]
  refine ⟨whole ▸ List.prefix_refl _, ?read, ?waiting, fun _ _ _ => whole, fun unnamed => ?silent⟩
  case read =>
    rw [List.flatMap_append, List.flatMap_singleton,
      Moment.received_of_idle delivers.operation?_eq, List.append_nil, items, ← List.append_assoc]
    calc (shown ++ [result]).map subscription.decode
        = shown.map subscription.decode ++ [value].map .ok := by
          rw [List.map_append, List.map_singleton, List.map_singleton, read]
      _ = _ := by
          rw [shows.read]
          exact List.map_append.symm
  case waiting =>
    rw [idle]
    exact nofun
  case silent =>
    have whole := shows.waiting result delivers.2
    rw [shows.silent unnamed] at whole
    cases List.append_ne_nil_of_right_ne_nil _ (List.cons_ne_nil _ _) whole

/-- A result for another subscription. -/
theorem Shows.elsewhere {there : Nat} {result : Json}
    (shows : Shows moments moment.reader place subscription shown)
    (delivers : moment.Delivers there result) (elsewhere : place ≠ there)
    (done : ∀ result, after.errand ≠ some (.deliver place result))
    (listed : after.session.Listed place → moment.reader.session.Listed place) :
    Shows (moments ++ [moment]) after place subscription shown := by
  refine shows.rest (.refl _) ?_ (Moment.heard_of_proceeds delivers.1)
    (fun result busy => (done result busy).elim) (fun still _ _ => ⟨.inl (listed still), ?_, ?_⟩) id
  · rw [Moment.received_of_idle delivers.operation?_eq, List.nil_append]
  · rw [delivers.2]
    intro _ same
    cases same
    exact elsewhere rfl
  · rw [delivers.2]
    exact nofun

/-- What is looked up for a place is heard there, as the subscription has the server's id. -/
private theorem Moment.heard_of_lookUp {bytes : List UInt8}
    (consistent : moment.reader.session.Consistent)
    (found : moment.reader.session.subscriptions[place]? = some subscription)
    (taken : moment.bytes? = some bytes)
    (busy : moment.frame?.bind (lookUp moment.reader.session) = some (.deliver place result)) :
    moment.heard place = [result] ∧ moment.reader.session.Listed place := by
  obtain ⟨frame, read, left⟩ := Option.bind_eq_some_iff.mp busy
  obtain ⟨serverId, rfl, listed⟩ := exists_of_lookUp left
  obtain ⟨_, same, parsed⟩ := Moment.frame?_eq_some_iff.mp read
  cases taken.symm.trans same
  have hears := Session.Moment.heard_of_serverId
    (show Session.Moment.operation ⟨moment.reader.session, .dispatch bytes⟩ = _ from rfl)
    parsed found (consistent.serverId_eq found listed)
  refine ⟨?_, serverId, listed⟩
  simp only [Moment.heard, taken]
  exact hears

/-- A notification that is looked up is heard by whoever has its id, and is the next one for whoever
is listed under it. -/
theorem Shows.looksUp {bytes : List UInt8}
    (shows : Shows moments moment.reader place subscription shown)
    (consistent : moment.reader.session.Consistent)
    (found : moment.reader.session.subscriptions[place]? = some subscription)
    (idle : moment.operation? = none) (taken : moment.bytes? = some bytes) :
    Shows (moments ++ [moment]) ⟨moment.reader.session,
      moment.frame?.bind (lookUp moment.reader.session)⟩ place subscription shown := by
  obtain ⟨_, free⟩ := Moment.stride_of_bytes? taken
  have hears : moment.heard place =
      Session.Moment.heard place ⟨moment.reader.session, .dispatch bytes⟩ := by
    simp only [Moment.heard, taken]
  have flow : moment.received place ++ subscription.results.items = subscription.results.items := by
    rw [Moment.received_of_idle idle, List.nil_append]
  have early (listed : moment.reader.session.Listed place) :
      shown = moments.flatMap (·.heard place) := by
    refine shows.all listed ?_ ?_
    · rw [free]
      exact nofun
    · rw [free]
      exact nofun
  rcases Session.Moment.heard_eq_nil_or ⟨moment.reader.session, .dispatch bytes⟩ place with
    silent | ⟨_, serverId, result, _, same, notified, present, named⟩
  · rw [← hears] at silent
    refine shows.rest (.refl _) flow silent (fun result busy => ?_)
      (fun listed _ _ => ⟨.inl listed, ?_, ?_⟩) id
    · cases silent.symm.trans (Moment.heard_of_lookUp consistent found taken busy).1
    · rw [free]
      exact nofun
    · rw [free]
      exact nofun
  · cases same
    cases found.symm.trans present
    have heard : moment.heard place = [result] := by
      rw [hears]
      exact Session.Moment.heard_of_serverId rfl notified found named
    have last : (moments ++ [moment]).flatMap (·.heard place) =
        moments.flatMap (·.heard place) ++ [result] := by
      rw [List.flatMap_append, List.flatMap_singleton, heard]
    refine ⟨?first, ?read, fun other busy => ?waiting, fun listed undelivered _ => ?all,
      fun unnamed => ?silent⟩
    case first =>
      rw [last]
      exact shows.first.trans (List.prefix_append _ _)
    case read =>
      rw [shows.read, List.flatMap_append, List.flatMap_singleton, List.append_assoc, flow]
    case waiting =>
      obtain ⟨also, listed⟩ := Moment.heard_of_lookUp consistent found taken busy
      cases heard.symm.trans also
      rw [last, early listed]
    case all =>
      obtain ⟨own, alsoNamed, known⟩ := (consistent.listed_iff found).mp listed
      cases named.symm.trans alsoNamed
      have frame := Moment.frame?_eq_some_iff.mpr ⟨bytes, taken, notified⟩
      refine (undelivered result ?_).elim
      simp only [frame, Option.bind_some, lookUp, known, Option.map_some]
    case silent => cases named.symm.trans unnamed

/-- **Every move keeps what is shown in order.** -/
theorem Shows.moves (shows : Shows moments moment.reader place subscription shown)
    (moves : Moves settings moment after request)
    (consistent : moment.reader.session.Consistent)
    (found : moment.reader.session.subscriptions[place]? = some subscription) :
    ∃ next, after.session.subscriptions[place]? = some next ∧
      ∃ shown, Shows (moments ++ [moment]) after place next shown := by
  cases moves with
  | rests idle busy =>
      refine ⟨subscription, found, shown, shows.rest (.refl _) ?_ ?_ (fun _ => id)
        (fun listed deliver close => ⟨.inl listed, deliver, close⟩) id⟩
      · rw [Moment.received_of_idle idle, List.nil_append]
      · simp only [Moment.heard, busy]
  | looksUp idle taken =>
      exact ⟨subscription, found, shown, shows.looksUp consistent found idle taken⟩
  | performs operation does =>
      obtain ⟨next, present, turn⟩ :=
        consistent.turn (consistent.step_perform settings operation) found
      obtain ⟨flow, listed⟩ := Moment.flows_of_operation? consistent found does turn
      refine ⟨next, present, shown, shows.rest turn.keeps flow (Moment.heard_of_operation? does)
        (fun result waits => (waiting?_eq_some_iff.mp waits).2) (fun still deliver close =>
          ⟨listed still, Moment.not_deliver_of_operation? does deliver,
            Moment.not_close_of_performs consistent found does still close⟩) fun unnamed => ?_⟩
      by_contra named
      obtain ⟨serverId, named⟩ := Option.ne_none_iff_exists'.mp named
      cases unnamed.symm.trans (turn.serverId_eq named)
  | forgets forgets =>
      obtain ⟨stride, _, busy⟩ := id forgets
      refine ⟨subscription, found, shown, shows.rest (.refl _) ?_
        (Moment.heard_of_proceeds stride) nofun (fun listed _ _ => ⟨.inl listed, ?_, ?_⟩) id⟩
      · rw [Moment.received_of_idle forgets.operation?_eq, List.nil_append]
      · rw [busy]
        exact nofun
      · rw [busy]
        exact nofun
  | misses delivers absent =>
      refine ⟨subscription, found, shown, shows.elsewhere delivers ?_ nofun id⟩
      rintro rfl
      cases absent.symm.trans found
  | @refuses there _ _ _ delivers present refused =>
      refine ⟨subscription, found, shown, ?_⟩
      by_cases same : place = there
      · subst same
        cases found.symm.trans present
        refine shows.rest (.refl _) ?_ (Moment.heard_of_proceeds delivers.1) nofun
          (fun _ _ close => (close _ rfl).elim) id
        rw [Moment.received_of_idle delivers.operation?_eq, List.nil_append]
      · exact shows.elsewhere delivers same nofun id
  | @delivers there result _ next delivers present done =>
      by_cases same : place = there
      · subst same
        cases found.symm.trans present
        exact ⟨next, Session.getElem?_update_self found, shown ++ [result],
          shows.delivers delivers done rfl⟩
      · exact ⟨subscription, (Session.getElem?_update_of_ne same).trans found, shown,
          shows.elsewhere delivers same nofun id⟩

/-- What is known about the subscription at a place after some moments, if there is one. -/
structure Told (moments : List (Moment α)) (reader : FrameReader α) (place : Nat) : Prop where
  absent : reader.session.subscriptions[place]? = none →
    moments.flatMap (·.heard place) = [] ∧ moments.flatMap (·.received place) = [] ∧
      ∀ result, reader.errand ≠ some (.deliver place result)
  present : ∀ subscription, reader.session.subscriptions[place]? = some subscription →
    ∃ shown, Shows moments reader place subscription shown

/-- Nothing is looked up for a place without a subscription. -/
theorem Moves.not_deliver_of_absent (moves : Moves settings moment after request)
    (consistent : moment.reader.session.Consistent)
    (absent : moment.reader.session.subscriptions[place]? = none)
    (before : ∀ result, moment.reader.errand ≠ some (.deliver place result)) (result : Json) :
    after.errand ≠ some (.deliver place result) := by
  intro busy
  rcases moves.undertakes busy with waits | undertakes
  · exact before result (waiting?_eq_some_iff.mp waits).2
  · obtain ⟨_, _, listed⟩ := undertakes.exists_of_deliver
    obtain ⟨_, present, _⟩ := consistent.acknowledged _ _ listed
    cases absent.symm.trans present

/-- **One move** continues what has been heard and received. -/
theorem Told.moves (told : Told moments moment.reader place)
    (moves : Moves settings moment after request)
    (consistent : moment.reader.session.Consistent) :
    Told (moments ++ [moment]) after place := by
  cases before : moment.reader.session.subscriptions[place]? with
  | some subscription =>
      obtain ⟨shown, shows⟩ := told.present subscription before
      obtain ⟨next, present, later⟩ := shows.moves moves consistent before
      refine ⟨fun absent => ?_, fun other found => ?_⟩
      · cases absent.symm.trans present
      · cases present.symm.trans found
        exact later
  | none =>
      obtain ⟨unheard, untaken, free⟩ := told.absent before
      have stillUnheard : (moments ++ [moment]).flatMap (·.heard place) = [] := by
        rw [List.flatMap_append, unheard, List.flatMap_singleton, Moment.heard_of_absent before]
        rfl
      have stillUntaken : (moments ++ [moment]).flatMap (·.received place) = [] := by
        rw [List.flatMap_append, untaken, List.flatMap_singleton, Moment.received_of_absent before]
        rfl
      have stillFree := moves.not_deliver_of_absent consistent before free
      refine ⟨fun _ => ⟨stillUnheard, stillUntaken, stillFree⟩, fun next found => ⟨[], ?_⟩⟩
      obtain ⟨topic, id, _, rfl⟩ := moves.added consistent before found
      refine ⟨List.nil_prefix, ?_, fun result busy => (stillFree result busy).elim,
        fun _ _ _ => stillUnheard.symm, fun _ => stillUnheard⟩
      rw [stillUntaken]
      rfl

private theorem told_run (settings : ClientSettings) (ids : IdSource) (strides : List (Stride α))
    (place : Nat) : Told ((start ids).history settings strides) ((start ids).run settings strides)
      place := by
  induction strides using List.reverseRecOn with
  | nil => exact ⟨fun _ => ⟨rfl, rfl, nofun⟩, nofun⟩
  | append_singleton strides stride ih =>
      rw [history_concat, run_concat]
      exact ih.moves (moves_advance settings ⟨(start ids).run settings strides, stride⟩)
        (consistent_start_run settings ids strides)

/-! ### After a result that cannot be put in -/

/-- Nothing goes into a subscription any more: the server has given its id, no result is looked up
for it, and if it is still listed the reader is going to close it. -/
structure Shut (reader : FrameReader α) (place : Nat) (subscription : Subscription α) : Prop where
  named : subscription.serverId ≠ none
  undelivered : ∀ result, reader.errand ≠ some (.deliver place result)
  closing : reader.session.Listed place →
    ∃ reason, reader.errand = some (.close subscription.requestId reason)

/-- **Who is shut stays so**, and what is got and what still waits is what waited before. -/
theorem Shut.moves (shut : Shut moment.reader place subscription)
    (moves : Moves settings moment after request)
    (consistent : moment.reader.session.Consistent)
    (found : moment.reader.session.subscriptions[place]? = some subscription) :
    ∃ next, after.session.subscriptions[place]? = some next ∧ Shut after place next ∧
      moment.received place ++ next.results.items = subscription.results.items := by
  obtain ⟨named, undelivered, closing⟩ := shut
  have stillUndelivered (result : Json) : after.errand ≠ some (.deliver place result) := by
    intro busy
    rcases moves.undertakes busy with waits | undertakes
    · exact undelivered result (waiting?_eq_some_iff.mp waits).2
    · obtain ⟨serverId, frame, listed⟩ := undertakes.exists_of_deliver
      obtain ⟨_, taken, _⟩ := Moment.frame?_eq_some_iff.mp frame
      obtain ⟨_, closes⟩ := closing ⟨serverId, listed⟩
      cases (Moment.stride_of_bytes? taken).2.symm.trans closes
  have unlisted (other : ∀ reason, moment.reader.errand ≠
      some (.close subscription.requestId reason)) : ¬ moment.reader.session.Listed place := by
    intro listed
    obtain ⟨reason, closes⟩ := closing listed
    exact other reason closes
  -- Between operations nothing comes to who is shut, and who is about to be closed is not put off.
  have idles (idle : moment.operation? = none)
      (kept : after.session.subscriptions[place]? = some subscription)
      (listed : after.session.Listed place → moment.reader.session.Listed place)
      (other : ∀ reason, moment.reader.errand ≠ some (.close subscription.requestId reason)) :
      ∃ next, after.session.subscriptions[place]? = some next ∧ Shut after place next ∧
        moment.received place ++ next.results.items = subscription.results.items := by
    refine ⟨subscription, kept,
      ⟨named, stillUndelivered, fun still => (unlisted other (listed still)).elim⟩, ?_⟩
    rw [Moment.received_of_idle idle, List.nil_append]
  cases moves with
  | rests idle =>
      refine ⟨subscription, found, ⟨named, undelivered, closing⟩, ?_⟩
      rw [Moment.received_of_idle idle, List.nil_append]
  | looksUp idle taken =>
      refine idles idle found id ?_
      rw [(Moment.stride_of_bytes? taken).2]
      exact nofun
  | performs operation does =>
      obtain ⟨next, present, turn⟩ :=
        consistent.turn (consistent.step_perform settings operation) found
      obtain ⟨flow, listed⟩ := Moment.flows_of_operation? consistent found does turn
      refine ⟨next, present, ⟨?_, stillUndelivered, fun still => ?_⟩, flow⟩
      · obtain ⟨serverId, named⟩ := Option.ne_none_iff_exists'.mp named
        rw [turn.serverId_eq named]
        exact Option.some_ne_none serverId
      · rw [turn.keeps.requestId]
        by_contra other
        have unclosed := Moment.not_close_of_performs consistent found does still
          (not_exists.mp other)
        exact unlisted unclosed ((listed still).resolve_right named)
  | forgets forgets =>
      obtain ⟨_, _, busy⟩ := id forgets
      refine idles forgets.operation?_eq found id ?_
      rw [busy]
      exact nofun
  | misses delivers | refuses delivers =>
      refine idles delivers.operation?_eq found id ?_
      rw [delivers.2]
      exact nofun
  | @delivers there _ _ _ delivers =>
      have elsewhere : place ≠ there := by
        rintro rfl
        exact undelivered _ delivers.2
      refine idles delivers.operation?_eq
        ((Session.getElem?_update_of_ne elsewhere).trans found) id ?_
      rw [delivers.2]
      exact nofun

/-- **Nothing goes in** from then on. -/
theorem Shut.flows (shut : Shut reader place subscription) (consistent : reader.session.Consistent)
    (found : reader.session.subscriptions[place]? = some subscription)
    (strides : List (Stride α)) :
    ∃ last, (reader.run settings strides).session.subscriptions[place]? = some last ∧
      (reader.history settings strides).flatMap (·.received place) ++ last.results.items =
        subscription.results.items := by
  induction strides generalizing reader subscription with
  | nil => exact ⟨subscription, found, rfl⟩
  | cons stride later ih =>
      have moves := moves_advance settings ⟨reader, stride⟩
      obtain ⟨next, present, still, flow⟩ := shut.moves moves consistent found
      obtain ⟨last, reached, rest⟩ := ih still (moves.consistent_after consistent) present
      refine ⟨last, reached, ?_⟩
      rw [history, List.flatMap_cons, List.append_assoc]
      exact (congrArg _ rest).trans flow

/-- A result that has been looked up cannot be put in. -/
structure Shuts (settings : ClientSettings) (reader : FrameReader α) (place : Nat)
    (subscription : Subscription α) (reason : SubscriptionError) : Prop where
  /-- The reader is going to close the subscription, and has no time for another frame. -/
  next : reader.advance settings .proceeds =
    (⟨reader.session, some (.close subscription.requestId reason)⟩, none)
  /-- When it goes on, whatever the holders have done meanwhile, the subscription is in no table
  any more, and its holder is told why, unless it had left before. -/
  closes : ∀ holders : List (Session.Operation α),
    let before := reader.run settings (.proceeds :: holders.map .does)
    let after := (before.advance settings .proceeds).1
    ¬ after.session.Live place ∧ ¬ after.session.Listed place ∧
      ∀ current, before.session.subscriptions[place]? = some current →
        before.session.Live place →
          after.session.subscriptions[place]? = some (current.fail reason)
  /-- What is got later and what then still waits is what waited before. -/
  later : ∀ strides, ∃ last,
    (reader.run settings (.proceeds :: strides)).session.subscriptions[place]? = some last ∧
    (reader.history settings (.proceeds :: strides)).flatMap (·.received place) ++
      last.results.items = subscription.results.items

/-- What the holder of a subscription can rely on after some strides. -/
structure Delivers (settings : ClientSettings) (reader : FrameReader α)
    (strides : List (Stride α)) (place : Nat) (subscription : Subscription α) : Prop where
  /-- What was got and what still waits is what a first part of the notifications says, and what
  all of them say as long as they reach it and the reader has done with them. -/
  inOrder : ∃ shown, shown <+: (reader.history settings strides).flatMap (·.heard place) ∧
    ((reader.run settings strides).session.Listed place →
      (reader.run settings strides).errand = none →
      shown = (reader.history settings strides).flatMap (·.heard place)) ∧
    shown.map subscription.decode =
      ((reader.history settings strides).flatMap (·.received place) ++
        subscription.results.items).map .ok
  bounded : subscription.results.items.length ≤ settings.resultCapacity.toNat
  /-- A result that was looked up for it and cannot go in is the end of it. -/
  refused : ∀ result reason,
    (reader.run settings strides).errand = some (.deliver place result) →
    subscription.deliver result = .error reason →
    Shuts settings (reader.run settings strides) place subscription reason

/-- **A result that cannot be put in is the last one.** -/
theorem shuts_of_refused (consistent : reader.session.Consistent)
    (found : reader.session.subscriptions[place]? = some subscription)
    (named : subscription.serverId ≠ none) {result : Json}
    (busy : reader.errand = some (.deliver place result))
    (refused : subscription.deliver result = .error reason) :
    Shuts settings reader place subscription reason := by
  have next : reader.advance settings .proceeds =
      (⟨reader.session, some (.close subscription.requestId reason)⟩, none) := by
    simp only [advance, busy, carryOn, found, refused]
  refine ⟨next, fun holders => ?closes, fun strides => ?later⟩
  case closes =>
    intro before after
    have same : before = FrameReader.run settings
        ⟨reader.session, some (.close subscription.requestId reason)⟩ (holders.map .does) := by
      simp only [before, run_cons, next]
    have consistentThen : before.session.Consistent := consistent_run settings consistent _
    have onward : reader.session.Onward before.session place subscription :=
      onward_interleaved consistent found (.proceeds :: holders.map .does)
    obtain ⟨current, present, keeps, _⟩ := onward.found
    obtain ⟨gone, told⟩ := consistentThen.perform_close settings present reason
    have closed : after.session =
        (before.session.perform settings (.close current.requestId reason)).1 := by
      have busy : before.errand = some (.close current.requestId reason) := by
        rw [same, keeps.requestId]
        exact errand_run_does rfl holders
      change (before.advance settings .proceeds).1.session = _
      rw [advance, busy]
      rfl
    rw [closed]
    refine ⟨gone, fun listed => gone (Session.Consistent.live_of_listed ?_ listed),
      fun other found live => ?_⟩
    · exact consistentThen.step (consistentThen.step_perform settings _)
    · cases present.symm.trans found
      exact told live
  case later =>
    have shut : Shut ⟨reader.session, some (.close subscription.requestId reason)⟩ place
        subscription := ⟨named, fun _ busy => (by cases busy), fun _ => ⟨reason, rfl⟩⟩
    obtain ⟨last, reached, flow⟩ := shut.flows consistent found strides
    have idle : Moment.operation? ⟨reader, .proceeds⟩ = none := by
      simp only [Moment.operation?, busy]
    refine ⟨last, ?_, ?_⟩
    · rw [run_cons, next]
      exact reached
    · rw [history, next, List.flatMap_cons, Moment.received_of_idle idle, List.nil_append]
      exact flow

/-- **Results come in order, without a gap, once each, and no more than there is room for**, in
every state of every run, whatever the holders do in the midst of a notification. -/
theorem delivers_interleaved {settings : ClientSettings} {ids : IdSource}
    {strides : List (Stride α)} {place : Nat} {subscription : Subscription α}
    (found : ((start ids).run settings strides).session.subscriptions[place]? =
      some subscription) : Delivers settings (start ids) strides place subscription := by
  obtain ⟨shown, shows⟩ := (told_run settings ids strides place).present subscription found
  refine ⟨⟨shown, shows.first, fun listed idle => shows.all listed ?_ ?_, shows.read⟩, ?bounded,
    fun result reason busy refused => ?refused⟩
  · rw [idle]
    exact nofun
  · rw [idle]
    exact nofun
  case bounded =>
    obtain ⟨topic, id, keeps⟩ := followsTopics_run settings ids strides place subscription found
    exact Nat.le_trans subscription.results.length_le (Nat.le_of_eq keeps.resultCapacity)
  case refused =>
    refine shuts_of_refused (consistent_start_run settings ids strides) found (fun unnamed => ?_)
      busy refused
    have whole := shows.waiting result busy
    rw [shows.silent unnamed] at whole
    cases List.append_ne_nil_of_right_ne_nil _ (List.cons_ne_nil _ _) whole

end LedgerClient.FrameReader
