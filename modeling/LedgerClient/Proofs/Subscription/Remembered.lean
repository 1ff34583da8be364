import LedgerClient.Proofs.Subscription.Farewell
import LedgerClient.Proofs.Subscription.Interleaving

/-! # Requests that are remembered

A request is remembered from when its subscription is given up, which is then in the tables no
more. So what is remembered was asked for, and nothing is known by it
(`LedgerClient.FrameReader.remembers_run`).
-/

namespace LedgerClient

namespace Session

variable {α : Type} {settings : ClientSettings} {session : Session α} {requestId : UInt64}
  {operation : Operation α}

/-- A subscription that the server has not given an id to leaves with its request. -/
def Forgoes (session after : Session α) (requestId : UInt64) : Prop :=
  ∃ (place : Nat) (subscription : Subscription α),
    session.byRequest.find? requestId = some place ∧
      session.subscriptions[place]? = some subscription ∧ subscription.serverId = none ∧
        after.byRequest.find? requestId = none

/-- A request is remembered because it was before, or because its subscription is given up. -/
theorem Consistent.remembered_before (consistent : session.Consistent)
    (distinct : session.requestIds.Nodup) (whole : operation.IsWhole)
    (given : (session.perform settings operation).1.cancelled.find? requestId ≠ none) :
    session.cancelled.find? requestId ≠ none ∨
      session.Forgoes (session.perform settings operation).1 requestId := by
  cases consistent.speaks settings distinct whole with
  | late _ _ _ done =>
      rw [done] at given
      have here := IdTable.find?_erase.symm.trans_ne given
      split at here
      · exact (here rfl).elim
      · exact .inl here
  | lost lost =>
      subst lost
      exact (given rfl).elim
  | silent _ kept => exact .inl (kept ▸ given)
  | @ends place ends =>
      obtain ⟨⟨_, known⟩, rfl | ⟨other, reason, rfl, closes⟩⟩ := ends
      · obtain ⟨subscription, found, rfl⟩ := consistent.requested _ _ known
        by_cases seen : subscription.isClosed = true
        · simp only [perform, unsubscribe, found, seen, if_true] at given
          exact .inl given
        · obtain ⟨ids, done⟩ := perform_unsubscribe_of_known settings found
            (eq_false_of_ne_true seen) known
          rw [done] at given ⊢
          cases server : subscription.serverId with
          | some serverId =>
              rw [server] at given
              exact .inl given
          | none =>
              rw [server] at given
              have here := IdTable.find?_insert.symm.trans_ne given
              split at here
              case isTrue same =>
                subst same
                exact .inr ⟨place, subscription, known, found, server,
                  IdTable.find?_erase.trans (if_pos rfl)⟩
              case isFalse => exact .inl here
      · obtain ⟨subscription, found, rfl⟩ := consistent.requested _ _ closes
        obtain ⟨ids, _, done⟩ := close_of_known found closes reason
        rw [perform, done] at given
        exact .inl given

/-- A session in which requests are remembered that were made, and that nothing is known by. -/
structure Remembers (session : Session α) : Prop where
  consistent : session.Consistent
  made : ∀ requestId, session.cancelled.find? requestId ≠ none → requestId ∈ session.requestIds
  unknown : ∀ requestId, session.cancelled.find? requestId ≠ none →
    session.byRequest.find? requestId = none

/-- What is known by a request has been requested. -/
theorem Consistent.mem_requestIds (consistent : session.Consistent) {place : Nat}
    (known : session.byRequest.find? requestId = some place) :
    requestId ∈ session.requestIds := by
  obtain ⟨subscription, found, rfl⟩ := consistent.requested _ _ known
  exact List.mem_map_of_mem (List.mem_of_getElem? found)

end Session

namespace FrameReader

variable {α : Type} {settings : ClientSettings} {reader after : FrameReader α}
  {moment : Moment α} {request : Option SocketRequest} {requestId : UInt64}
  {strides : List (Stride α)}

/-- The operation of a moment is done at once. -/
theorem Moment.isWhole_of_operation? {operation : Session.Operation α}
    (does : moment.operation? = some operation) : operation.IsWhole := by
  rintro bytes rfl
  exact (operation?_dispatch_iff.mp does).2

namespace Moves

variable (moves : Moves settings moment after request)

include moves

/-- What is remembered now was remembered before, or is given up by this move. -/
theorem remembered_before (consistent : moment.reader.session.Consistent)
    (distinct : moment.reader.session.requestIds.Nodup)
    (given : after.session.cancelled.find? requestId ≠ none) :
    moment.reader.session.cancelled.find? requestId ≠ none ∨
      moment.reader.session.Forgoes after.session requestId := by
  cases moves with
  | rests | looksUp | misses | refuses | delivers => exact .inl given
  | performs operation does =>
      exact consistent.remembered_before distinct (Moment.isWhole_of_operation? does) given
  | forgets =>
      left
      have here := IdTable.find?_erase.symm.trans_ne given
      split at here
      · exact (here rfl).elim
      · exact here

private theorem remembers (before : moment.reader.session.Remembers)
    (unrepeated : after.session.requestIds.Nodup) : after.session.Remembers := by
  have consistent := before.consistent
  have grows := moves.requestIds_prefix consistent
  have distinct := unrepeated.sublist grows.sublist
  refine ⟨moves.consistent_after consistent, fun requestId given => ?made,
    fun requestId given => ?unknown⟩
  case made =>
    rcases moves.remembered_before consistent distinct given with old | ⟨_, _, known, _⟩
    · exact grows.subset (before.made requestId old)
    · exact grows.subset (consistent.mem_requestIds known)
  case unknown =>
    rcases moves.remembered_before consistent distinct given with old | ⟨_, _, _, _, _, left⟩
    · by_contra known
      obtain ⟨place, known⟩ := Option.ne_none_iff_exists'.mp known
      have early := moves.known_before consistent unrepeated (before.made requestId old) known
      cases early.symm.trans (before.unknown requestId old)
    · exact left

end Moves

/-- What every move keeps while request ids do not repeat, every run keeps. -/
theorem run_induction_of_nodup (kept : Session α → Prop)
    (step : ∀ (moment : Moment α) after request, moment.reader.session.Consistent →
      Moves settings moment after request → after.session.requestIds.Nodup →
      kept moment.reader.session → kept after.session)
    (consistent : reader.session.Consistent) (start : kept reader.session)
    (unrepeated : (reader.run settings strides).session.requestIds.Nodup) :
    kept (reader.run settings strides).session := by
  refine run_induction (fun session => session.requestIds.Nodup → kept session) ?_ consistent
    (fun _ => start) strides unrepeated
  intro moment after request consistent moves before distinct
  have grows := moves.requestIds_prefix consistent
  exact step _ _ _ consistent moves distinct (before (distinct.sublist grows.sublist))

/-- **What is remembered was asked for, and nothing is known by it any more.** -/
theorem remembers_run {ids : IdSource}
    (unrepeated : ((start ids : FrameReader α).run settings strides).session.requestIds.Nodup) :
    ((start ids : FrameReader α).run settings strides).session.Remembers := by
  refine run_induction_of_nodup (·.Remembers)
    (fun _ _ _ _ moves unrepeated remembers => moves.remembers remembers unrepeated)
    (Session.consistent_start ids) ⟨Session.consistent_start ids, ?_, ?_⟩ unrepeated
  · exact fun _ given => (given rfl).elim
  · exact fun _ given => (given rfl).elim

end FrameReader

end LedgerClient
