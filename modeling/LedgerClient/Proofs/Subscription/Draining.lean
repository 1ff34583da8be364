import LedgerClient.Proofs.Subscription.Remembered

/-! # What is remembered of requests that were given up

A request that is given up before it is acknowledged is remembered until the server has replied
to it. It is forgotten when the server gives an id, and when it reports a failure. It is not
forgotten on a response that gives no id, whether that comes before the request is given up or
after it (`LedgerClient.FrameReader.not_drains_confirmed`); nor on a failure that is looked up
before and removed after (`LedgerClient.FrameReader.drains_overtaken`). In all other cases nothing
is remembered that the server has replied to (`LedgerClient.FrameReader.drains_iff`).
-/

namespace LedgerClient

namespace Session

variable {α : Type} {settings : ClientSettings} {session : Session α} {requestId : UInt64}
  {result : Json} {reason : SubscriptionError}

/-! ### Requests that are settled -/

/-- A request that is not remembered, and that will not be: if a subscription is known by it, it
has an id of the server. -/
structure Settled (session : Session α) (requestId : UInt64) : Prop where
  made : requestId ∈ session.requestIds
  forgotten : session.cancelled.find? requestId = none
  named : ∀ (place : Nat) subscription, session.byRequest.find? requestId = some place →
    session.subscriptions[place]? = some subscription → subscription.serverId ≠ none

private theorem settled_of_unknown (made : requestId ∈ session.requestIds)
    (forgotten : session.cancelled.find? requestId = none)
    (unknown : session.byRequest.find? requestId = none) : session.Settled requestId where
  made := made
  forgotten := forgotten
  named place subscription known := by
    rw [unknown] at known
    cases known

/-- **The server's id settles a request.** -/
theorem Remembers.settled_acknowledge (remembers : session.Remembers) {serverId : UInt64}
    (word : result.asWord? = some serverId)
    (made : requestId ∈ (session.acknowledge requestId result).1.requestIds) :
    (session.acknowledge requestId result).1.Settled requestId := by
  cases known : session.byRequest.find? requestId with
  | none =>
      rw [acknowledge_of_unknown known word] at made ⊢
      cases given : session.cancelled.find? requestId with
      | none =>
          simp only [given] at made ⊢
          exact settled_of_unknown made given known
      | some method =>
          simp only [given] at made ⊢
          exact settled_of_unknown made (IdTable.find?_erase.trans (if_pos rfl)) known
  | some place =>
      obtain ⟨subscription, found, rfl⟩ := remembers.consistent.requested _ _ known
      have forgotten : session.cancelled.find? subscription.requestId = none := by
        by_contra given
        cases known.symm.trans (remembers.unknown _ given)
      rw [acknowledge_of_known found known word] at made ⊢
      by_cases named : subscription.serverId.isSome = true
      · rw [if_pos named] at made ⊢
        refine ⟨made, forgotten, fun other next here present => ?_⟩
        cases known.symm.trans here
        cases found.symm.trans present
        exact Option.isSome_iff_ne_none.mp named
      · rw [if_neg named] at made ⊢
        refine ⟨made, forgotten, fun other next here present => ?_⟩
        cases known.symm.trans here
        cases (getElem?_update_self found).symm.trans present
        exact Option.some_ne_none serverId

/-- **A failure settles a request** that is not given up while it is looked up. -/
theorem Consistent.settled_close (consistent : session.Consistent)
    (forgotten : session.cancelled.find? requestId = none)
    (made : requestId ∈ (session.close requestId reason).1.requestIds) :
    (session.close requestId reason).1.Settled requestId := by
  cases known : session.byRequest.find? requestId with
  | none =>
      simp only [close, consistent.remove_eq_none_iff.mpr known] at made ⊢
      exact settled_of_unknown made forgotten known
  | some place =>
      obtain ⟨subscription, found, rfl⟩ := consistent.requested _ _ known
      obtain ⟨ids, _, done⟩ := close_of_known found known reason
      rw [done] at made ⊢
      exact settled_of_unknown made forgotten (IdTable.find?_erase.trans (if_pos rfl))

end Session

namespace FrameReader

variable {α : Type} {settings : ClientSettings} {reader after : FrameReader α}
  {session : Session α} {moment : Moment α} {request : Option SocketRequest} {requestId : UInt64}
  {strides : List (Stride α)} {reason : SubscriptionError}

/-- **A settled request stays settled.** -/
theorem Moves.settled (moves : Moves settings moment after request)
    (settled : moment.reader.session.Settled requestId)
    (consistent : moment.reader.session.Consistent)
    (unrepeated : after.session.requestIds.Nodup) : after.session.Settled requestId := by
  have grows := moves.requestIds_prefix consistent
  have distinct := unrepeated.sublist grows.sublist
  refine ⟨grows.subset settled.made, ?forgotten, fun place next known present => ?named⟩
  case forgotten =>
    by_contra given
    rcases moves.remembered_before consistent distinct given with old | ⟨_, _, known, found, no, _⟩
    · exact old settled.forgotten
    · exact settled.named _ _ known found no
  case named =>
    have early := moves.known_before consistent unrepeated settled.made known
    obtain ⟨subscription, found, _⟩ := consistent.requested _ _ early
    obtain ⟨serverId, named⟩ := Option.ne_none_iff_exists'.mp (settled.named _ _ early found)
    obtain ⟨_, still, turn⟩ := moves.turn consistent found
    cases present.symm.trans still
    rw [turn.serverId_eq named]
    exact Option.some_ne_none serverId

/-- **What is settled stays settled.** -/
theorem settled_run (settled : reader.session.Settled requestId)
    (consistent : reader.session.Consistent)
    (unrepeated : (reader.run settings strides).session.requestIds.Nodup) :
    (reader.run settings strides).session.Settled requestId :=
  run_induction_of_nodup (·.Settled requestId)
    (fun _ _ _ consistent moves unrepeated settled => moves.settled settled consistent unrepeated)
    consistent settled unrepeated

/-! ### Replies -/

/-- After some strides, a reader is done with a reply to a request, which had been made when the
reply was taken up. -/
def Answered (settings : ClientSettings) (reader : FrameReader α) (strides : List (Stride α))
    (requestId : UInt64) : Prop :=
  ∃ before bytes middle rest, strides = before ++ .does (.dispatch bytes) :: middle ++ rest ∧
    (reader.run settings before).errand = none ∧
    requestId ∈ (reader.run settings before).session.requestIds ∧
    (Session.Operation.dispatch bytes : Session.Operation α).Replies requestId ∧
    (reader.run settings (before ++ .does (.dispatch bytes) :: middle)).errand = none

/-- The reader has taken up a response to a request that does not give an id. -/
def Misanswered (settings : ClientSettings) (reader : FrameReader α) (strides : List (Stride α))
    (requestId : UInt64) : Prop :=
  ∃ before bytes rest result, strides = before ++ .does (.dispatch bytes) :: rest ∧
    (reader.run settings before).errand = none ∧
    requestId ∈ (reader.run settings before).session.requestIds ∧
    (Session.Operation.dispatch bytes : Session.Operation α).Answers requestId result ∧
    result.asWord? = none

/-- No request is remembered that the server has replied to. -/
def Drains (settings : ClientSettings) (reader : FrameReader α) (strides : List (Stride α)) :
    Prop :=
  ∀ before later, strides = before ++ later → ∀ requestId,
    (reader.run settings before).session.cancelled.find? requestId ≠ none →
      ¬ Answered settings reader before requestId

/-- No response without an id comes for a request that is given up before the server has given
one, and no request is given up while its failure is looked up. -/
structure Undisturbed (settings : ClientSettings) (reader : FrameReader α)
    (strides : List (Stride α)) : Prop where
  numbered : ∀ before later, strides = before ++ later → ∀ requestId,
    (reader.run settings before).session.cancelled.find? requestId ≠ none →
      ¬ Misanswered settings reader before requestId
  steady : ∀ before later requestId reason, strides = before ++ .proceeds :: later →
    (reader.run settings before).errand = some (.reject requestId true reason) →
      (reader.run settings before).session.cancelled.find? requestId = none

private theorem cancelled_close (consistent : session.Consistent) :
    (session.close requestId reason).1.cancelled = session.cancelled := by
  cases known : session.byRequest.find? requestId with
  | none =>
      simp only [Session.close, consistent.remove_eq_none_iff.mpr known]
  | some place =>
      obtain ⟨subscription, found, rfl⟩ := consistent.requested _ _ known
      obtain ⟨ids, _, done⟩ := Session.close_of_known found known reason
      rw [done]
      rfl

/-- The reader removes what is rejected only after it has taken up the failure of a request that
had been made. -/
theorem exists_of_rejecting (consistent : reader.session.Consistent) (idle : reader.errand = none)
    (busy : (reader.run settings strides).errand = some (.reject requestId true reason)) :
    ∃ before bytes middle, strides = before ++ .does (.dispatch bytes) :: middle ∧
      (reader.run settings before).errand = none ∧
      requestId ∈ (reader.run settings before).session.requestIds ∧
      (Session.Operation.dispatch bytes : Session.Operation α).Replies requestId := by
  obtain ⟨before, stride, holders, rfl, undertakes⟩ := exists_undertakes idle busy
  cases undertakes with
  | @looksUp frame _ taken left =>
      obtain ⟨bytes, same, parsed⟩ := Moment.frame?_eq_some_iff.mp taken
      obtain ⟨stride, early⟩ := Moment.stride_of_bytes? same
      cases frame with
      | response | other => cases left
      | notification serverId =>
          obtain ⟨_, _, impossible⟩ := Option.map_eq_some_iff.mp left
          cases impossible
      | failure other code message =>
          cases other with
          | none => cases left
          | some other =>
              simp only [lookUp, Option.some.injEq, Errand.reject.injEq] at left
              obtain ⟨rfl, known, _⟩ := left
              obtain ⟨place, known⟩ := Option.isSome_iff_exists.mp known
              exact ⟨before, bytes, holders.map .does, by rw [← stride], early,
                (consistent_run settings consistent before).mem_requestIds known,
                .inr ⟨bytes, code, message, rfl, parsed⟩⟩

/-- **A failure is settled** when the reader is done with it, unless the request is given up while
it is looked up. -/
theorem settled_of_rejecting {isKnown : Bool} (consistent : reader.session.Consistent)
    (busy : reader.errand = some (.reject requestId isKnown reason))
    (made : requestId ∈ reader.session.requestIds)
    (unknown : isKnown = false → reader.session.byRequest.find? requestId = none)
    (steady : ∀ before later, strides = before ++ .proceeds :: later →
      (reader.run settings before).errand = some (.reject requestId true reason) →
        (reader.run settings before).session.cancelled.find? requestId = none)
    (unrepeated : (reader.run settings strides).session.requestIds.Nodup)
    (done : (reader.run settings strides).errand = none) :
    (reader.run settings strides).session.Settled requestId := by
  -- The reader stays about the failure until it goes on, and what it has looked up stays true as
  -- far as it matters: a request that was made and is not known does not become known again.
  induction strides generalizing reader with
  | nil => cases busy.symm.trans done
  | cons stride later ih =>
      have moves := moves_advance settings ⟨reader, stride⟩
      have after := moves.consistent_after consistent
      have still := (moves.requestIds_prefix consistent).subset made
      have grows := requestIds_prefix_run settings after later
      cases stride with
      | does operation =>
          refine ih after (errand_advance_does busy operation) still (fun wasUnknown => ?_)
            (fun before later split => ?_) unrepeated done
          · by_contra known
            obtain ⟨place, known⟩ := Option.ne_none_iff_exists'.mp known
            have distinct := unrepeated.sublist grows.sublist
            have early := moves.known_before consistent distinct made known
            cases early.symm.trans (unknown wasUnknown)
          · exact steady (.does operation :: before) later (congrArg _ split)
      | proceeds =>
          have settled : (reader.advance settings .proceeds).1.session.Settled requestId := by
            obtain ⟨session, errand⟩ := reader
            cases busy
            cases isKnown with
            | true => exact consistent.settled_close (steady [] later rfl rfl) still
            | false =>
                exact Session.settled_of_unknown made (IdTable.find?_erase.trans (if_pos rfl))
                  (unknown rfl)
          rw [run_cons]
          exact settled_run settled after unrepeated

/-- **A reply settles a request** when the reader is done with it, unless it gives no id or is
overtaken. -/
theorem settled_of_reply {bytes : List UInt8} (remembers : reader.session.Remembers)
    (idle : reader.errand = none) (made : requestId ∈ reader.session.requestIds)
    (replies : (Session.Operation.dispatch bytes : Session.Operation α).Replies requestId)
    (numbered : ∀ result,
      (Session.Operation.dispatch bytes : Session.Operation α).Answers requestId result →
        result.asWord? ≠ none)
    (steady : ∀ before later reason,
      .does (.dispatch bytes) :: strides = before ++ .proceeds :: later →
      (reader.run settings before).errand = some (.reject requestId true reason) →
        (reader.run settings before).session.cancelled.find? requestId = none)
    (unrepeated :
      (reader.run settings (.does (.dispatch bytes) :: strides)).session.requestIds.Nodup)
    (done : (reader.run settings (.does (.dispatch bytes) :: strides)).errand = none) :
    (reader.run settings (.does (.dispatch bytes) :: strides)).session.Settled requestId := by
  obtain ⟨session, _⟩ := reader
  cases idle
  have moves := moves_takeUp settings session bytes
  have consistent := moves.consistent_after remembers.consistent
  have still := (moves.requestIds_prefix remembers.consistent).subset made
  rcases replies with ⟨result, answers⟩ | ⟨_, code, message, ⟨⟩, frame⟩
  · obtain ⟨serverId, word⟩ := Option.ne_none_iff_exists'.mp (numbered result answers)
    obtain ⟨_, ⟨⟩, frame⟩ := answers
    have taken : (takeUp bytes session).1 = ⟨(session.acknowledge requestId result).1, none⟩ := by
      simp only [takeUp, frame]
    rw [taken] at consistent still
    rw [run_cons, advance, taken] at unrepeated ⊢
    exact settled_run (remembers.settled_acknowledge word still) consistent unrepeated
  · have taken : (takeUp bytes session).1 = ⟨session, some (.reject requestId
        (session.byRequest.contains requestId) (.rpc code message))⟩ := by
      simp only [takeUp, frame]
    have steadyAfter (front back : List (Stride α))
        (split : strides = front ++ .proceeds :: back) :=
      steady (.does (.dispatch bytes) :: front) back (.rpc code message) (congrArg _ split)
    simp only [run_cons, advance, taken] at steadyAfter
    rw [run_cons, advance, taken] at unrepeated done ⊢
    exact settled_of_rejecting remembers.consistent rfl made IdTable.contains_eq_false_iff.mp
      steadyAfter unrepeated done

/-! ### The requests that are remembered -/

variable {ids : IdSource}

private theorem nodup_of_front {before later : List (Stride α)}
    (unrepeated :
      ((start ids : FrameReader α).run settings (before ++ later)).session.requestIds.Nodup) :
    ((start ids : FrameReader α).run settings before).session.requestIds.Nodup := by
  have consistent : ((start ids : FrameReader α).run settings before).session.Consistent :=
    consistent_run settings (Session.consistent_start ids) before
  rw [run_append] at unrepeated
  exact unrepeated.sublist (requestIds_prefix_run settings consistent later).sublist

private theorem settled_of_answered
    (steady : ∀ before later requestId reason, strides = before ++ .proceeds :: later →
      ((start ids : FrameReader α).run settings before).errand =
        some (.reject requestId true reason) →
        ((start ids : FrameReader α).run settings before).session.cancelled.find? requestId = none)
    (unrepeated : ((start ids : FrameReader α).run settings strides).session.requestIds.Nodup)
    (answered : Answered settings (start ids) strides requestId)
    (numbered : ¬ Misanswered settings (start ids) strides requestId) :
    ((start ids : FrameReader α).run settings strides).session.Settled requestId := by
  obtain ⟨before, bytes, middle, rest, rfl, idle, made, replies, done⟩ := answered
  have whole := nodup_of_front unrepeated
  have remembers := remembers_run (nodup_of_front whole)
  have consistent : ((start ids : FrameReader α).run settings
      (before ++ .does (.dispatch bytes) :: middle)).session.Consistent :=
    consistent_run settings (Session.consistent_start ids) _
  rw [run_append] at unrepeated ⊢
  refine settled_run ?_ consistent unrepeated
  rw [run_append] at whole done ⊢
  refine settled_of_reply remembers idle made replies (fun result answers word => ?_)
    (fun front back reason split => ?_) whole done
  · refine numbered ⟨before, bytes, middle ++ rest, result, ?_, idle, made, answers, word⟩
    rw [List.append_assoc, List.cons_append]
  · rw [← run_append]
    refine steady (before ++ front) (back ++ rest) requestId reason ?_
    rw [split, List.append_assoc, List.append_assoc, List.append_assoc, List.cons_append]

/-- **Nothing is remembered that the server has replied to**, exactly as long as no response
without an id comes for a request that is given up, and none is given up while its failure is
looked up. -/
theorem drains_iff {settings : ClientSettings} {ids : IdSource} {strides : List (Stride α)}
    (unrepeated : ((start ids : FrameReader α).run settings strides).session.requestIds.Nodup) :
    Drains settings (start ids) strides ↔ Undisturbed settings (start ids) strides := by
  have empty : (start ids : FrameReader α).session.Consistent := Session.consistent_start ids
  constructor
  · intro drains
    refine ⟨?numbered, ?steady⟩
    case numbered =>
      intro before later split requestId given misanswered
      obtain ⟨first, bytes, rest, result, rfl, idle, made, answers, _⟩ := misanswered
      refine drains _ later split requestId given
        ⟨first, bytes, [], rest, by simp, idle, made, .inl ⟨result, answers⟩, ?_⟩
      obtain ⟨_, ⟨⟩, frame⟩ := answers
      rw [run_concat, advance, idle]
      simp only [takeUp, frame]
    case steady =>
      intro before later requestId reason split busy
      by_contra given
      -- What is rejected has left the tables by now, so going on does nothing and it is kept.
      obtain ⟨first, bytes, middle, rfl, idle, made, replies⟩ := exists_of_rejecting empty rfl busy
      have after : (start ids : FrameReader α).run settings
          ((first ++ .does (.dispatch bytes) :: middle) ++ [.proceeds]) = _ := run_concat _ _
      rw [advance, busy] at after
      have consistent := consistent_run settings empty (first ++ .does (.dispatch bytes) :: middle)
      refine drains (first ++ .does (.dispatch bytes) :: middle ++ [.proceeds]) later
        (by simp [split]) requestId ?_
        ⟨first, bytes, middle ++ [.proceeds], [], by simp, idle, made, replies, ?_⟩
      · rw [after]
        exact (cancelled_close consistent).symm ▸ given
      · rw [← List.cons_append, ← List.append_assoc, after]
        rfl
  · intro undisturbed before later split requestId given answered
    have numbered := undisturbed.numbered before later split requestId given
    rw [split] at unrepeated
    have steady (front back : List (Stride α)) (requestId : UInt64) (reason : SubscriptionError)
        (inside : before = front ++ .proceeds :: back) :=
      undisturbed.steady front (back ++ later) requestId reason (by simp [split, inside])
    exact given (settled_of_answered steady (nodup_of_front unrepeated) answered numbered).forgotten

open Session (slots tightSettings countingIds)

/-- A session in which one subscription has been asked for. -/
def requestedSession : Session UInt64 where
  ids := { countingIds with used := 1 }
  subscriptions := [Subscription.ofTopic slots 0 2 1]
  byRequest := ⟨[(0, 0)]⟩
  bySubscription := .empty
  cancelled := .empty

private theorem run_requested (later : List (Stride UInt64)) :
    (start countingIds).run tightSettings (.does (.register slots) :: later) =
      (⟨requestedSession, none⟩ : FrameReader UInt64).run tightSettings later := by
  rw [run_cons, advance_register_of_free rfl]
  rfl

/-- The server reports that the request has failed. -/
def rejection : List UInt8 :=
  Utf8.encode "\x7b\"id\":0,\"error\":\x7b\"code\":-1,\"message\":\"no\"\x7d\x7d"

/-- The request is given up after its failure has been looked up. -/
def overtakingStrides : List (Stride UInt64) :=
  [.does (.register slots), .does (.dispatch rejection), .does (.unsubscribe 0), .proceeds]

/-- A failure that is overtaken is not forgotten. -/
theorem drains_overtaken :
    ((start countingIds).run tightSettings overtakingStrides).session.requestIds.Nodup ∧
      ¬ Drains tightSettings (start countingIds) overtakingStrides := by
  have unrepeated :
      ((start countingIds).run tightSettings overtakingStrides).session.requestIds.Nodup := by
    rw [overtakingStrides, run_requested]
    decide
  refine ⟨unrepeated, fun drains => ?_⟩
  have undisturbed := (drains_iff unrepeated).mp drains
  have forgotten := undisturbed.steady
    [.does (.register slots), .does (.dispatch rejection), .does (.unsubscribe 0)] [] 0
    (.rpc (-1) "no") rfl
  rw [run_requested] at forgotten
  cases forgotten rfl

/-- The server confirms a request without an id. -/
def confirmation : List UInt8 := Utf8.encode "\x7b\"id\":0,\"result\":true\x7d"

/-- The request is given up, and confirmed. -/
def confirmedStrides : List (Stride UInt64) :=
  [.does (.register slots), .does (.unsubscribe 0), .does (.dispatch confirmation)]

/-- A request that was given up is still remembered after the server has confirmed it. -/
theorem not_drains_confirmed : ¬ Drains tightSettings (start countingIds) confirmedStrides := by
  intro drains
  have given : ((start countingIds).run tightSettings confirmedStrides).session.cancelled.find? 0 =
      some "slotUnsubscribe" := by
    rw [confirmedStrides, run_requested]
    rfl
  have before : (start countingIds).run tightSettings
      [.does (.register slots), .does (.unsubscribe 0)] = _ := run_requested _
  refine drains confirmedStrides [] (List.append_nil _).symm 0 (given ▸ Option.some_ne_none _)
    ⟨[.does (.register slots), .does (.unsubscribe 0)], confirmation, [], [], rfl, ?_, ?_,
      .inl ⟨.bool true, confirmation, rfl, rfl⟩, ?_⟩
  · rw [before]
    rfl
  · rw [before]
    exact List.mem_singleton_self 0
  · exact congrArg errand (run_requested _)

end FrameReader

end LedgerClient
