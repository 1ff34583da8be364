import LedgerClient.Proofs.Subscription.Failure
import LedgerClient.Proofs.Subscription.Subject

/-! # Frames in the midst of other things

The tables of a session change under a lock, but a frame may need it more than once. A failure is
looked up first, and what it rejects is removed afterwards; a result is looked up first, and one
that cannot be delivered ends its subscription afterwards. Holders may do anything in between.
There is one reader, which takes up the next frame when it is done with the last one
(`LedgerClient.FrameReader`). Where nothing comes in between, a frame does what it does at once
(`LedgerClient.FrameReader.dispatch_eq`). Every stride of the reader and the holders comes to one
of a few moves (`LedgerClient.FrameReader.moves_advance`).
-/

namespace LedgerClient

/-- What a reader has still to do for a frame. -/
inductive Errand where
  /-- A request has failed; whether it was known has been looked up. -/
  | reject (requestId : UInt64) (isKnown : Bool) (reason : SubscriptionError)
  | deliver (place : Nat) (result : Json)
  | close (requestId : UInt64) (reason : SubscriptionError)

/-- A session and what its reader is about. -/
structure FrameReader (α : Type) where
  session : Session α
  errand : Option Errand

/-- What happens under one lock. -/
inductive Stride (α : Type) where
  /-- An operation on the session. A frame is taken up, if the reader has nothing else to do. -/
  | does (operation : Session.Operation α)
  /-- The reader goes on with its frame. -/
  | proceeds

namespace FrameReader

variable {α : Type}

/-- A reader of a session without subscriptions. -/
def start (ids : IdSource) : FrameReader α := ⟨.start ids, none⟩

/-- What is done for a frame at first. -/
def takeUp (bytes : List UInt8) (session : Session α) : FrameReader α × Option SocketRequest :=
  match Frame.parse bytes with
  | .ok (.response requestId result) =>
    let (session, request) := session.acknowledge requestId result
    (⟨session, none⟩, request)
  | .ok (.notification serverId result) =>
    (⟨session, (session.bySubscription.find? serverId).map (.deliver · result)⟩, none)
  | .ok (.failure (some requestId) code message) =>
    (⟨session, some (.reject requestId (session.byRequest.contains requestId)
      (.rpc code message))⟩, none)
  | .ok (.failure none _ _) | .ok .other | .error _ => (⟨session, none⟩, none)

/-- What is done for a frame afterwards. -/
def carryOn (session : Session α) : Errand → FrameReader α × Option SocketRequest
  | .reject requestId true reason | .close requestId reason =>
    let (session, request) := session.close requestId reason
    (⟨session, none⟩, request)
  | .reject requestId false _ =>
    (⟨{ session with cancelled := session.cancelled.erase requestId }, none⟩, none)
  | .deliver place result =>
    match session.subscriptions[place]? with
    | none => (⟨session, none⟩, none)
    | some subscription =>
      match subscription.deliver result with
      | .ok delivered => (⟨session.update place fun _ => delivered, none⟩, none)
      | .error reason => (⟨session, some (.close subscription.requestId reason)⟩, none)

/-- What a stride makes of a reader and its session, and the request that it leads to. -/
def advance (settings : ClientSettings) (reader : FrameReader α) :
    Stride α → FrameReader α × Option SocketRequest
  | .does (.dispatch bytes) =>
    match reader.errand with
    | none => takeUp bytes reader.session
    | some _ => (reader, none)
  | .does operation =>
    let (session, request) := reader.session.perform settings operation
    ({ reader with session }, request)
  | .proceeds =>
    match reader.errand with
    | none => (reader, none)
    | some errand => carryOn reader.session errand

/-- A reader after some strides. -/
def run (settings : ClientSettings) (reader : FrameReader α) (strides : List (Stride α)) :
    FrameReader α :=
  strides.foldl (fun reader stride => (reader.advance settings stride).1) reader

variable {settings : ClientSettings} {reader : FrameReader α} {session : Session α}
  {errand : Errand}

/-- Nothing happens in no strides. -/
@[simp] theorem run_nil : reader.run settings [] = reader := rfl

/-- The first stride is taken first. -/
@[simp] theorem run_cons (stride : Stride α) (later : List (Stride α)) :
    reader.run settings (stride :: later) =
      (reader.advance settings stride).1.run settings later := rfl

/-- Two runs, one after another, are one run. -/
theorem run_append (first second : List (Stride α)) :
    reader.run settings (first ++ second) = (reader.run settings first).run settings second :=
  List.foldl_append

/-- The last stride is taken last. -/
theorem run_concat (strides : List (Stride α)) (last : Stride α) :
    reader.run settings (strides ++ [last]) =
      ((reader.run settings strides).advance settings last).1 :=
  run_append strides [last]

/-- A request under a free id is made as it is among whole operations. -/
theorem advance_register_of_free {topic : Topic α}
    (free : reader.session.byRequest.contains reader.session.ids.draw.1 = false) :
    (reader.advance settings (.does (.register topic))).1 =
      ⟨(reader.session.add (.ofTopic topic reader.session.ids.draw.1
        settings.resultCapacity.toNat settings.errorCapacity.toNat)).remember
          reader.session.ids.draw.2 reader.session.cancelled, reader.errand⟩ := by
  rw [← Session.perform_register_of_free free]
  rfl

/-! ### Nothing in between -/

/-- **Where nothing comes in between**, a frame does what it does at once. -/
theorem dispatch_eq (settings : ClientSettings) (session : Session α) (bytes : List UInt8) :
    let first := advance settings ⟨session, none⟩ (.does (.dispatch bytes))
    let second := first.1.advance settings .proceeds
    let third := second.1.advance settings .proceeds
    third.1 = ⟨(session.dispatch bytes).1, none⟩ ∧
      first.2.toList ++ second.2.toList ++ third.2.toList = (session.dispatch bytes).2.toList := by
  simp only [advance, takeUp, Session.dispatch]
  cases Frame.parse bytes with
  | error fault => exact ⟨rfl, rfl⟩
  | ok frame =>
      cases frame with
      | other => exact ⟨rfl, rfl⟩
      | response requestId result =>
          simp only [Option.toList_none, List.append_nil, and_self]
      | failure requestId code message =>
          cases requestId with
          | none => exact ⟨rfl, rfl⟩
          | some requestId =>
              simp only [Session.reject]
              cases session.byRequest.contains requestId with
              | false => exact ⟨rfl, rfl⟩
              | true => exact ⟨rfl, List.append_nil _⟩
      | notification serverId result =>
          simp only [Session.notify]
          cases session.bySubscription.find? serverId with
          | none => exact ⟨rfl, rfl⟩
          | some place =>
              simp only [Option.map_some, carryOn]
              cases session.subscriptions[place]? with
              | none => exact ⟨rfl, rfl⟩
              | some subscription =>
                  simp only
                  cases subscription.deliver result with
                  | ok delivered => exact ⟨rfl, rfl⟩
                  | error reason => exact ⟨rfl, rfl⟩

/-! ### Moments -/

/-- What is left to be done for a frame that has been looked up. -/
def lookUp (session : Session α) : Frame → Option Errand
  | .notification serverId result =>
    (session.bySubscription.find? serverId).map (.deliver · result)
  | .failure (some requestId) code message =>
    some (.reject requestId (session.byRequest.contains requestId) (.rpc code message))
  | .response .. | .failure none .. | .other => none

/-- A stride and the reader that it finds. -/
structure Moment (α : Type) where
  reader : FrameReader α
  stride : Stride α

/-- The moments of a run, the first one first. -/
def history (settings : ClientSettings) (reader : FrameReader α) :
    List (Stride α) → List (Moment α)
  | [] => []
  | stride :: later =>
    ⟨reader, stride⟩ :: history settings (reader.advance settings stride).1 later

namespace Moment

/-- What a moment leaves behind. -/
def after (settings : ClientSettings) (moment : Moment α) : FrameReader α :=
  (moment.reader.advance settings moment.stride).1

/-- The request that a moment leads to. -/
def request? (settings : ClientSettings) (moment : Moment α) : Option SocketRequest :=
  (moment.reader.advance settings moment.stride).2

/-- The bytes of the frame that is taken up: the reader has nothing else to do. -/
def bytes? (moment : Moment α) : Option (List UInt8) :=
  match moment.stride, moment.reader.errand with
  | .does (.dispatch bytes), none => some bytes
  | _, _ => none

/-- The frame that is taken up, if it can be read. -/
def frame? (moment : Moment α) : Option Frame :=
  moment.bytes?.bind fun bytes => (Frame.parse bytes).toOption

/-- The operation that a moment does as a whole, with the lock taken once. -/
def operation? (moment : Moment α) : Option (Session.Operation α) :=
  match moment.stride with
  | .does (.dispatch bytes) =>
    match moment.frame? with
    | some (.response ..) => some (.dispatch bytes)
    | _ => none
  | .does operation => some operation
  | .proceeds =>
    match moment.reader.errand with
    | some (.reject requestId true reason) | some (.close requestId reason) =>
      some (.close requestId reason)
    | _ => none

/-- What the reader was about, unless it goes on with it. -/
def waiting? (moment : Moment α) : Option Errand :=
  match moment.stride with
  | .does _ => moment.reader.errand
  | .proceeds => none

/-- The reader is done with the failure of a request that was not live when it was looked up. -/
def Forgets (moment : Moment α) (requestId : UInt64) : Prop :=
  moment.stride = .proceeds ∧
    ∃ reason, moment.reader.errand = some (.reject requestId false reason)

/-- The reader puts in a result for the subscription at a place, or tries to. -/
def Delivers (moment : Moment α) (place : Nat) (result : Json) : Prop :=
  moment.stride = .proceeds ∧ moment.reader.errand = some (.deliver place result)

end Moment

variable {moment : Moment α}

private theorem history_append (first second : List (Stride α)) :
    reader.history settings (first ++ second) =
      reader.history settings first ++ (reader.run settings first).history settings second := by
  induction first generalizing reader with
  | nil => rfl
  | cons stride later ih => exact congrArg (List.cons _) ih

/-- The moment of the last stride comes last. -/
theorem history_concat (strides : List (Stride α)) (last : Stride α) :
    reader.history settings (strides ++ [last]) =
      reader.history settings strides ++ [⟨reader.run settings strides, last⟩] :=
  history_append strides [last]

/-- A moment of a run is where the strides before it have led. -/
theorem exists_of_mem_history {strides : List (Stride α)}
    (member : moment ∈ reader.history settings strides) :
    ∃ before later, strides = before ++ moment.stride :: later ∧
      moment.reader = reader.run settings before := by
  induction strides generalizing reader with
  | nil => cases member
  | cons stride later ih =>
      rcases List.mem_cons.mp member with rfl | behind
      · exact ⟨[], later, rfl, rfl⟩
      · obtain ⟨before, rest, rfl, same⟩ := ih behind
        exact ⟨stride :: before, rest, rfl, same⟩

/-! ### Moves -/

/-- What a moment does to a reader and its session, and the request that it leads to. -/
inductive Moves (settings : ClientSettings) (moment : Moment α) :
    FrameReader α → Option SocketRequest → Prop
  /-- The reader has nothing to go on with, or no time for another frame. -/
  | rests (idle : moment.operation? = none) (busy : moment.bytes? = none)
      (done : moment.stride = .proceeds → moment.reader.errand = none) :
      Moves settings moment moment.reader none
  | looksUp {bytes} (idle : moment.operation? = none) (taken : moment.bytes? = some bytes) :
      Moves settings moment ⟨moment.reader.session,
        moment.frame?.bind (lookUp moment.reader.session)⟩ none
  | performs (operation : Session.Operation α) (does : moment.operation? = some operation) :
      Moves settings moment
        ⟨(moment.reader.session.perform settings operation).1, moment.waiting?⟩
        (moment.reader.session.perform settings operation).2
  /-- A request is not remembered any more, though something may be known by it by now. -/
  | forgets {requestId} (forgets : moment.Forgets requestId) :
      Moves settings moment ⟨moment.reader.session.remember moment.reader.session.ids
        (moment.reader.session.cancelled.erase requestId), none⟩ none
  | misses {place result} (delivers : moment.Delivers place result)
      (absent : moment.reader.session.subscriptions[place]? = none) :
      Moves settings moment ⟨moment.reader.session, none⟩ none
  /-- A result cannot be put in, which is going to end the subscription. -/
  | refuses {place result subscription reason} (delivers : moment.Delivers place result)
      (found : moment.reader.session.subscriptions[place]? = some subscription)
      (refused : subscription.deliver result = .error reason) :
      Moves settings moment
        ⟨moment.reader.session, some (.close subscription.requestId reason)⟩ none
  /-- A result goes to a subscription that may have left the tables by now. -/
  | delivers {place result subscription next} (delivers : moment.Delivers place result)
      (found : moment.reader.session.subscriptions[place]? = some subscription)
      (done : subscription.deliver result = .ok next) :
      Moves settings moment ⟨moment.reader.session.update place fun _ => next, none⟩ none

/-- **Taking up a frame** is a move. -/
theorem moves_takeUp (settings : ClientSettings) (session : Session α) (bytes : List UInt8) :
    Moves settings ⟨⟨session, none⟩, .does (.dispatch bytes)⟩ (takeUp bytes session).1
      (takeUp bytes session).2 := by
  let moment : Moment α := ⟨⟨session, none⟩, .does (.dispatch bytes)⟩
  have taken : moment.frame? = (Frame.parse bytes).toOption := rfl
  have looks (idle : moment.operation? = none)
      (done : takeUp bytes session = (⟨session, moment.frame?.bind (lookUp session)⟩, none)) :
      Moves settings moment (takeUp bytes session).1 (takeUp bytes session).2 := by
    rw [done]
    exact .looksUp idle rfl
  have unanswered {frame? : Option Frame} (frame : moment.frame? = frame?)
      (other : ∀ requestId result, frame? ≠ some (.response requestId result)) :
      moment.operation? = none := by
    simp only [moment, Moment.operation?]
    split
    case h_1 same => exact (other _ _ (frame.symm.trans same)).elim
    case h_2 => rfl
  cases frame : Frame.parse bytes with
  | error fault =>
      rw [frame] at taken
      refine looks (unanswered taken fun _ _ same => by cases same) ?_
      rw [taken, takeUp, frame]
      rfl
  | ok said =>
      rw [frame] at taken
      cases said with
      | response requestId result =>
          have done : takeUp bytes session = (⟨(session.perform settings (.dispatch bytes)).1,
              none⟩, (session.perform settings (.dispatch bytes)).2) := by
            simp only [takeUp, frame, Session.perform, Session.dispatch]
          rw [done]
          refine .performs (.dispatch bytes) ?_
          simp only [Moment.operation?]
          rw [taken]
          rfl
      | failure requestId code message =>
          refine looks (unanswered taken fun _ _ same => by cases same) ?_
          rw [taken, takeUp, frame]
          cases requestId with
          | none | some requestId => rfl
      | notification | other =>
          refine looks (unanswered taken fun _ _ same => by cases same) ?_
          rw [taken, takeUp, frame]
          rfl

private theorem moves_carryOn (settings : ClientSettings) (session : Session α) (errand : Errand) :
    Moves settings ⟨⟨session, some errand⟩, .proceeds⟩ (carryOn session errand).1
      (carryOn session errand).2 := by
  cases errand with
  | close requestId reason => exact .performs (.close requestId reason) rfl
  | reject requestId isKnown reason =>
      cases isKnown with
      | true => exact .performs (.close requestId reason) rfl
      | false => exact .forgets ⟨rfl, reason, rfl⟩
  | deliver place result =>
      rw [carryOn]
      cases found : session.subscriptions[place]? with
      | none => exact .misses ⟨rfl, rfl⟩ found
      | some subscription =>
          cases done : subscription.deliver result with
          | ok next =>
              simp only [done]
              exact .delivers ⟨rfl, rfl⟩ found done
          | error reason =>
              simp only [done]
              exact .refuses ⟨rfl, rfl⟩ found done

/-- **A stride does nothing else** than these moves. -/
theorem moves_advance (settings : ClientSettings) (moment : Moment α) :
    Moves settings moment (moment.after settings) (moment.request? settings) := by
  obtain ⟨⟨session, errand⟩, stride⟩ := moment
  cases stride with
  | proceeds =>
      cases errand with
      | none => exact .rests rfl rfl fun _ => rfl
      | some errand => exact moves_carryOn settings session errand
  | does operation =>
      cases operation with
      | dispatch bytes =>
          cases errand with
          | none => exact moves_takeUp settings session bytes
          | some errand => exact .rests rfl rfl nofun
      | register topic => exact .performs (.register topic) rfl
      | remove requestId => exact .performs (.remove requestId) rfl
      | receive place isCancelled => exact .performs (.receive place isCancelled) rfl
      | unsubscribe place => exact .performs (.unsubscribe place) rfl
      | release place => exact .performs (.release place) rfl
      | close requestId reason => exact .performs (.close requestId reason) rfl
      | failAll reason => exact .performs (.failAll reason) rfl

/-! ### What is left to be done -/

/-- A moment leaves something to be done for a frame that was not left before. -/
inductive Moment.Undertakes (moment : Moment α) : Errand → Prop
  | looksUp {frame errand} (taken : moment.frame? = some frame)
      (left : lookUp moment.reader.session frame = some errand) : Undertakes moment errand
  | closes {place result subscription reason} (delivers : moment.Delivers place result)
      (found : moment.reader.session.subscriptions[place]? = some subscription)
      (refused : subscription.deliver result = .error reason) :
      Undertakes moment (.close subscription.requestId reason)

/-- A result is looked up for whoever is listed under the server's id in the notification. -/
theorem exists_of_lookUp {frame : Frame} {place : Nat} {result : Json}
    (left : lookUp session frame = some (.deliver place result)) :
    ∃ serverId, frame = .notification serverId result ∧
      session.bySubscription.find? serverId = some place := by
  cases frame with
  | response | other => cases left
  | failure requestId =>
      cases requestId with
      | none | some => cases left
  | notification serverId other =>
      obtain ⟨_, listed, same⟩ := Option.map_eq_some_iff.mp left
      cases same
      exact ⟨serverId, rfl, listed⟩

/-- A delivery is undertaken for a notification with a known id. -/
theorem Moment.Undertakes.exists_of_deliver {place : Nat} {result : Json}
    (undertakes : moment.Undertakes (.deliver place result)) :
    ∃ serverId, moment.frame? = some (.notification serverId result) ∧
      moment.reader.session.bySubscription.find? serverId = some place := by
  cases undertakes with
  | looksUp taken left =>
      obtain ⟨serverId, rfl, listed⟩ := exists_of_lookUp left
      exact ⟨serverId, taken, listed⟩

/-- What is left to be done was so before, or is so from now on. -/
theorem Moves.undertakes {after : FrameReader α} {request : Option SocketRequest}
    (moves : Moves settings moment after request) (busy : after.errand = some errand) :
    moment.waiting? = some errand ∨ moment.Undertakes errand := by
  cases moves with
  | rests _ _ done =>
      left
      obtain ⟨reader, stride⟩ := moment
      cases stride with
      | does => exact busy
      | proceeds => cases (done rfl).symm.trans busy
  | looksUp =>
      obtain ⟨frame, taken, left⟩ := Option.bind_eq_some_iff.mp busy
      exact .inr (.looksUp taken left)
  | performs => exact .inl busy
  | forgets | misses | delivers => cases busy
  | refuses delivers found refused =>
      cases busy
      exact .inr (.closes delivers found refused)

/-- A reader that is about something stays about it until it goes on. -/
theorem errand_advance_does (busy : reader.errand = some errand)
    (operation : Session.Operation α) :
    (reader.advance settings (.does operation)).1.errand = some errand := by
  obtain ⟨session, _⟩ := reader
  cases busy
  cases operation with
  | dispatch | register | remove | receive | unsubscribe | release | close | failAll => rfl

/-- An errand waits while an operation happens. -/
theorem waiting?_eq_some_iff : moment.waiting? = some errand ↔
    (∃ operation, moment.stride = .does operation) ∧ moment.reader.errand = some errand := by
  obtain ⟨reader, stride⟩ := moment
  cases stride with
  | does operation => exact ⟨fun busy => ⟨⟨operation, rfl⟩, busy⟩, fun busy => busy.2⟩
  | proceeds => exact iff_of_false nofun (by rintro ⟨⟨_, ⟨⟩⟩, _⟩)

/-- **Whatever a reader is about was undertaken once**, and nothing but the holders has done
anything since. -/
theorem exists_undertakes {strides : List (Stride α)} (idle : reader.errand = none)
    (busy : (reader.run settings strides).errand = some errand) :
    ∃ before stride, ∃ holders : List (Session.Operation α),
      strides = before ++ stride :: holders.map .does ∧
      Moment.Undertakes ⟨reader.run settings before, stride⟩ errand := by
  induction strides using List.reverseRecOn with
  | nil => cases idle.symm.trans busy
  | append_singleton strides stride ih =>
      rw [run_concat] at busy
      rcases (moves_advance settings ⟨reader.run settings strides, stride⟩).undertakes busy with
        waits | undertakes
      · obtain ⟨⟨operation, rfl⟩, early⟩ := waiting?_eq_some_iff.mp waits
        obtain ⟨before, stride, holders, rfl, undertakes⟩ := ih early
        exact ⟨before, stride, holders ++ [operation], by simp, undertakes⟩
      · exact ⟨strides, stride, [], rfl, undertakes⟩

/-! ### Whole operations -/

namespace Moment

variable {operation : Session.Operation α} {bytes : List UInt8} {requestId : UInt64}
  {result : Json}

/-- What is done as a whole is asked for so, or is left to be done for a frame. -/
theorem stride_of_operation? (does : moment.operation? = some operation) :
    moment.stride = .does operation ∨ moment.stride = .proceeds ∧ ∃ requestId reason,
      operation = .close requestId reason ∧
        (moment.reader.errand = some (.reject requestId true reason) ∨
          moment.reader.errand = some (.close requestId reason)) := by
  obtain ⟨⟨session, errand⟩, stride⟩ := moment
  cases stride with
  | proceeds =>
      cases errand with
      | none => cases does
      | some errand =>
          cases errand with
          | deliver => cases does
          | close requestId reason =>
              cases does
              exact .inr ⟨rfl, requestId, reason, rfl, .inr rfl⟩
          | reject requestId isKnown reason =>
              cases isKnown with
              | false => cases does
              | true =>
                  cases does
                  exact .inr ⟨rfl, requestId, reason, rfl, .inl rfl⟩
  | does asked =>
      left
      cases asked with
      | dispatch bytes =>
          simp only [operation?] at does
          split at does
          · cases does
            rfl
          · cases does
      | register | remove | receive | unsubscribe | release | close | failAll =>
          cases does
          rfl

/-- Whatever is done as a whole is asked for so, unless it closes a subscription. -/
theorem stride_of_unclosed (does : moment.operation? = some operation)
    (unclosed : ∀ requestId reason, operation ≠ .close requestId reason) :
    moment.stride = .does operation := by
  rcases stride_of_operation? does with stride | ⟨_, requestId, reason, closes, _⟩
  · exact stride
  · exact (unclosed requestId reason closes).elim

/-- The frame of a moment is what its bytes say. -/
theorem frame?_eq_some_iff {frame : Frame} : moment.frame? = some frame ↔
    ∃ bytes, moment.bytes? = some bytes ∧ Frame.parse bytes = .ok frame := by
  rw [frame?, Option.bind_eq_some_iff]
  refine exists_congr fun bytes => and_congr_right fun _ => ?_
  cases Frame.parse bytes with
  | error fault => exact iff_of_false nofun nofun
  | ok said =>
      rw [Except.toOption, Option.some.injEq, Except.ok.injEq]

/-- Forgetting a request is half of an operation. -/
theorem Forgets.operation?_eq (forgets : moment.Forgets requestId) : moment.operation? = none := by
  obtain ⟨stride, _, errand⟩ := forgets
  simp only [operation?, stride, errand]

/-- Delivering a result is half of an operation. -/
theorem Delivers.operation?_eq {place : Nat} (delivers : moment.Delivers place result) :
    moment.operation? = none := by
  obtain ⟨stride, errand⟩ := delivers
  simp only [operation?, stride, errand]

/-- Bytes are taken up by a reader without an errand. -/
theorem stride_of_bytes? (taken : moment.bytes? = some bytes) :
    moment.stride = .does (.dispatch bytes) ∧ moment.reader.errand = none := by
  obtain ⟨⟨session, errand⟩, stride⟩ := moment
  unfold bytes? at taken
  split at taken
  case h_1 stride errand =>
    cases taken
    exact ⟨stride, errand⟩
  case h_2 => cases taken

/-- Of all frames, only a response is dealt with as a whole. -/
theorem operation?_dispatch_iff : moment.operation? = some (.dispatch bytes) ↔
    moment.bytes? = some bytes ∧
      ∃ requestId result, Frame.parse bytes = .ok (.response requestId result) := by
  constructor
  · intro does
    have asked := stride_of_unclosed does fun _ _ same => by cases same
    simp only [operation?, asked] at does
    split at does
    case h_1 requestId result frame =>
      obtain ⟨taken, same, parsed⟩ := frame?_eq_some_iff.mp frame
      cases asked.symm.trans (stride_of_bytes? same).1
      exact ⟨same, requestId, result, parsed⟩
    case h_2 => cases does
  · rintro ⟨taken, requestId, result, parsed⟩
    have frame := frame?_eq_some_iff.mpr ⟨bytes, taken, parsed⟩
    simp only [operation?, (stride_of_bytes? taken).1, frame]

/-- A response is an answer to its request, dealt with as a whole. -/
theorem exists_answers (frame : moment.frame? = some (.response requestId result)) :
    ∃ operation, moment.operation? = some operation ∧ operation.Answers requestId result := by
  obtain ⟨bytes, taken, parsed⟩ := frame?_eq_some_iff.mp frame
  exact ⟨_, operation?_dispatch_iff.mpr ⟨taken, _, _, parsed⟩, bytes, rfl, parsed⟩

/-- What is done as a whole is done to the session as it would be at once. -/
theorem after_of_operation? (settings : ClientSettings)
    (does : moment.operation? = some operation) :
    (moment.after settings).session = (moment.reader.session.perform settings operation).1 ∧
      moment.request? settings = (moment.reader.session.perform settings operation).2 := by
  have moves := moves_advance settings moment
  generalize moment.after settings = after, moment.request? settings = request at moves
  cases moves with
  | performs other same =>
      cases does.symm.trans same
      exact ⟨rfl, rfl⟩
  | rests idle | looksUp idle => cases does.symm.trans idle
  | forgets forgets => cases does.symm.trans forgets.operation?_eq
  | misses delivers | refuses delivers | delivers delivers =>
      cases does.symm.trans delivers.operation?_eq

/-- An operation that answers a request takes up the frame that does. -/
theorem frame?_of_answers (does : moment.operation? = some operation)
    (answers : operation.Answers requestId result) :
    moment.frame? = some (.response requestId result) := by
  obtain ⟨bytes, rfl, parsed⟩ := answers
  exact frame?_eq_some_iff.mpr ⟨bytes, (operation?_dispatch_iff.mp does).1, parsed⟩

end Moment

/-! ### What a moment does to one subscription -/

/-- What a moment does to the subscription at a place. -/
inductive Turn (moment : Moment α) (after : Session α) (place : Nat)
    (subscription : Subscription α) : Subscription α → Prop
  | performs {operation next} (does : moment.operation? = some operation)
      (turn : moment.reader.session.Turn after place subscription operation next) :
      Turn moment after place subscription next
  | delivered {result next} (delivers : moment.Delivers place result)
      (done : subscription.deliver result = .ok next)
      (live : after.Live place ↔ moment.reader.session.Live place)
      (listed : after.Listed place → moment.reader.session.Listed place) :
      Turn moment after place subscription next
  /-- Nothing happens to it. -/
  | rests (idle : moment.operation? = none)
      (live : after.Live place ↔ moment.reader.session.Live place)
      (listed : after.Listed place → moment.reader.session.Listed place) :
      Turn moment after place subscription subscription

variable {after : FrameReader α} {request : Option SocketRequest} {place : Nat}
  {subscription next : Subscription α} {requestId : UInt64} {reason : SubscriptionError}

namespace Moves

variable (moves : Moves settings moment after request)
  (consistent : moment.reader.session.Consistent)

include moves consistent

/-- **Every move keeps the tables consistent.** -/
theorem consistent_after : after.session.Consistent := by
  cases moves with
  | rests | looksUp | misses | refuses => exact consistent
  | performs operation => exact consistent.step (consistent.step_perform settings operation)
  | forgets => exact consistent.remember _ _
  | delivers _ found done =>
      refine consistent.update fun _ present => ?_
      cases found.symm.trans present
      obtain ⟨keeps, named⟩ := Subscription.keeps_of_deliver done
      exact ⟨keeps.requestId, named⟩

/-- **Seen from one subscription**, every move is one of the turns. -/
theorem turn (found : moment.reader.session.subscriptions[place]? = some subscription) :
    ∃ next, after.session.subscriptions[place]? = some next ∧
      Turn moment after.session place subscription next := by
  cases moves with
  | rests idle | looksUp idle => exact ⟨subscription, found, .rests idle Iff.rfl id⟩
  | performs operation does =>
      obtain ⟨next, present, turn⟩ :=
        consistent.turn (consistent.step_perform settings operation) found
      exact ⟨next, present, .performs does turn⟩
  | forgets forgets => exact ⟨subscription, found, .rests forgets.operation?_eq Iff.rfl id⟩
  | misses delivers | refuses delivers =>
      exact ⟨subscription, found, .rests delivers.operation?_eq Iff.rfl id⟩
  | @delivers there _ _ next delivers present done =>
      by_cases same : place = there
      · subst same
        cases found.symm.trans present
        exact ⟨next, Session.getElem?_update_self found, .delivered delivers done Iff.rfl id⟩
      · exact ⟨subscription, (Session.getElem?_update_of_ne same).trans found,
          .rests delivers.operation?_eq Iff.rfl id⟩

/-- A subscription appears when it is asked for, and in no other way. -/
theorem added (absent : moment.reader.session.subscriptions[place]? = none)
    (found : after.session.subscriptions[place]? = some next) :
    ∃ topic id, moment.operation? = some (.register topic) ∧
      next = .ofTopic topic id settings.resultCapacity.toNat settings.errorCapacity.toNat := by
  cases moves with
  | rests | looksUp | forgets | misses | refuses => cases absent.symm.trans found
  | performs operation does =>
      obtain ⟨topic, id, rfl, same⟩ :=
        consistent.added (consistent.step_perform settings operation) absent found
      exact ⟨topic, id, does, same⟩
  | delivers =>
      cases (Session.update_getElem?_eq_none_iff.mpr absent).symm.trans found

/-- A subscription appears live, under a new request id. -/
theorem opened (absent : moment.reader.session.subscriptions[place]? = none)
    (found : after.session.subscriptions[place]? = some next) :
    after.session.Live place ∧ after.session.cancelled = moment.reader.session.cancelled ∧
      next.serverId = none ∧
        after.session.requestIds = moment.reader.session.requestIds ++ [next.requestId] := by
  cases moves with
  | rests | looksUp | forgets | misses | refuses => cases absent.symm.trans found
  | performs operation =>
      exact consistent.opened (consistent.step_perform settings operation) absent found
  | delivers => cases (Session.update_getElem?_eq_none_iff.mpr absent).symm.trans found

/-- Request ids stay as they are, but that a new one may be drawn. -/
theorem requestIds_eq_or : after.session.requestIds = moment.reader.session.requestIds ∨
    ∃ id, moment.reader.session.ids.drawFree moment.reader.session.byRequest.contains =
        some (id, after.session.ids) ∧
      after.session.requestIds = moment.reader.session.requestIds ++ [id] := by
  cases moves with
  | rests | looksUp | forgets | misses | refuses => exact .inl rfl
  | performs operation =>
      exact consistent.requestIds_eq_or (consistent.step_perform settings operation)
  | delivers _ found done =>
      exact .inl (Session.requestIds_update found
        (Subscription.keeps_of_deliver done).1.requestId)

private theorem later : moment.reader.session.ids.Later after.session.ids := by
  cases moves with
  | rests | looksUp | forgets | misses | refuses | delivers => exact .refl _
  | performs operation => exact (consistent.step_perform settings operation).later

/-- No request is taken back. -/
theorem requestIds_prefix : moment.reader.session.requestIds <+: after.session.requestIds := by
  rcases moves.requestIds_eq_or consistent with same | ⟨_, _, same⟩
  · exact same ▸ List.prefix_rfl
  · exact same ▸ List.prefix_append ..

/-- What is known by a request that was made before was known by it before. -/
theorem known_before (unrepeated : after.session.requestIds.Nodup)
    (made : requestId ∈ moment.reader.session.requestIds)
    (known : after.session.byRequest.find? requestId = some place) :
    moment.reader.session.byRequest.find? requestId = some place := by
  cases moves with
  | rests | looksUp | forgets | misses | refuses | delivers => exact known
  | performs operation =>
      have step := consistent.step_perform settings operation
      rcases step.known_before known with early | ⟨_, _, subscription, added, same⟩
      · exact early
      · rw [Session.requestIds, added, List.map_append, List.map_singleton, same] at unrepeated
        exact (List.disjoint_of_nodup_append unrepeated made (List.mem_singleton_self _)).elim

end Moves

namespace Turn

variable {session : Session α} (turn : Turn moment session place subscription next)

include turn

/-- A subscription keeps what identifies it. -/
theorem keeps : subscription.Keeps next := by
  cases turn with
  | performs _ turn => exact turn.keeps
  | delivered _ done => exact (Subscription.keeps_of_deliver done).1
  | rests => exact .refl subscription

/-- A subscription keeps the server's id, once it has one. -/
theorem serverId_eq {serverId : UInt64} (named : subscription.serverId = some serverId) :
    next.serverId = some serverId := by
  cases turn with
  | performs _ turn => exact turn.serverId_eq named
  | delivered _ done => exact (Subscription.keeps_of_deliver done).2.trans named
  | rests => exact named

/-- A subscription keeps the method that ends it. -/
theorem unsubscribeMethod_eq : next.unsubscribeMethod = subscription.unsubscribeMethod := by
  cases turn with
  | performs _ turn => exact turn.unsubscribeMethod_eq
  | delivered _ done =>
      obtain ⟨_, rfl⟩ := Subscription.exists_results_of_deliver done
      rfl
  | rests => rfl

/-- What is live now has been live before. -/
theorem live_of_live (still : session.Live place) : moment.reader.session.Live place := by
  cases turn with
  | performs _ turn => exact turn.live_of_live still
  | delivered _ _ live | rests _ live => exact live.mp still

private theorem untold (still : session.Live place)
    (untold : subscription.errors.items = [] ∧ subscription.isClosed = false) :
    next.errors.items = [] ∧ next.isClosed = false := by
  cases turn with
  | performs _ turn => exact turn.untold still untold
  | delivered _ done =>
      obtain ⟨_, rfl⟩ := Subscription.exists_results_of_deliver done
      exact untold
  | rests => exact untold

end Turn

/-! ### Whole runs -/

variable {strides before later : List (Stride α)} {ids : IdSource}

/-- **The tables are consistent along every run.** -/
theorem consistent_run (settings : ClientSettings) (consistent : reader.session.Consistent)
    (strides : List (Stride α)) : (reader.run settings strides).session.Consistent := by
  induction strides generalizing reader with
  | nil => exact consistent
  | cons stride later ih =>
      exact ih ((moves_advance settings ⟨reader, stride⟩).consistent_after consistent)

/-- What every move keeps while the tables are consistent, every run keeps. -/
theorem run_induction (kept : Session α → Prop)
    (step : ∀ (moment : Moment α) after request, moment.reader.session.Consistent →
      Moves settings moment after request → kept moment.reader.session → kept after.session)
    (consistent : reader.session.Consistent) (start : kept reader.session)
    (strides : List (Stride α)) : kept (reader.run settings strides).session := by
  induction strides generalizing reader with
  | nil => exact start
  | cons stride later ih =>
      have moves := moves_advance settings ⟨reader, stride⟩
      exact ih (moves.consistent_after consistent) (step _ _ _ consistent moves start)

/-- **No subscription goes backwards**, whatever happens between two parts of a frame. -/
theorem onward_interleaved (consistent : reader.session.Consistent)
    (found : reader.session.subscriptions[place]? = some subscription)
    (strides : List (Stride α)) :
    reader.session.Onward (reader.run settings strides).session place subscription := by
  induction strides generalizing reader subscription with
  | nil => exact ⟨⟨subscription, found, .refl _, fun _ named => named⟩, id,
      consistent.live_of_listed⟩
  | cons stride later ih =>
      have moves := moves_advance settings ⟨reader, stride⟩
      obtain ⟨next, present, turn⟩ := moves.turn consistent found
      obtain ⟨⟨last, reached, keeps, named⟩, live, listed⟩ :=
        ih (moves.consistent_after consistent) present
      refine ⟨⟨last, reached, turn.keeps.trans keeps, ?_⟩, ?_, ?_⟩
      · intro serverId early
        exact named serverId (turn.serverId_eq early)
      · exact fun still => turn.live_of_live (live still)
      · exact fun still => turn.live_of_live (listed still)

/-- A reader that is about something stays about it whatever the holders do. -/
theorem errand_run_does (busy : reader.errand = some errand)
    (holders : List (Session.Operation α)) :
    (reader.run settings (holders.map .does)).errand = some errand := by
  induction holders generalizing reader with
  | nil => exact busy
  | cons operation later ih => exact ih (errand_advance_does busy operation)

/-- No run takes a request back. -/
theorem requestIds_prefix_run (settings : ClientSettings)
    (consistent : reader.session.Consistent) (strides : List (Stride α)) :
    reader.session.requestIds <+: (reader.run settings strides).session.requestIds :=
  run_induction (fun session => reader.session.requestIds <+: session.requestIds)
    (fun _ _ _ consistent moves grown => grown.trans (moves.requestIds_prefix consistent))
    consistent List.prefix_rfl strides

/-- **The tables stay consistent**, however the strides interleave. -/
theorem consistent_start_run (settings : ClientSettings) (ids : IdSource)
    (strides : List (Stride α)) :
    ((start ids : FrameReader α).run settings strides).session.Consistent :=
  consistent_run settings (Session.consistent_start ids) strides

private theorem drawnInOrder_run (settings : ClientSettings) (ids : IdSource)
    (strides : List (Stride α)) :
    ((start ids : FrameReader α).run settings strides).session.ids.DrawnInOrder
      ((start ids : FrameReader α).run settings strides).session.requestIds := by
  refine run_induction (fun session => session.ids.DrawnInOrder session.requestIds) ?_
    (Session.consistent_start ids) (IdSource.drawnInOrder_nil ids) strides
  intro moment after request consistent moves inOrder
  rcases moves.requestIds_eq_or consistent with same | ⟨id, drawn, same⟩
  · rw [same]
    exact inOrder.later (moves.later consistent)
  · rw [same]
    exact inOrder.concat drawn

/-- Ids that are distinct at the end have been distinct before. -/
theorem distinct_ids_run
    (distinct :
      ((start ids : FrameReader α).run settings (before ++ later)).session.ids.Distinct) :
    ((start ids : FrameReader α).run settings before).session.ids.Distinct := by
  rw [run_append] at distinct
  refine distinct.of_later (run_induction
    (fun session => ((start ids).run settings before).session.ids.Later session.ids)
    (fun _ _ _ consistent moves grown => grown.trans (moves.later consistent))
    (consistent_start_run settings ids before) (.refl _) later)

/-- **Request ids do not repeat** if the ids drawn in the run do not. -/
theorem nodup_requestIds_run
    (distinct :
      ((start ids : FrameReader α).run settings (before ++ later)).session.ids.Distinct) :
    ((start ids : FrameReader α).run settings before).session.requestIds.Nodup :=
  (drawnInOrder_run settings ids before).nodup (distinct_ids_run distinct)

/-- Every subscription was asked for, and its queues are as large as the settings say. -/
theorem followsTopics_run (settings : ClientSettings) (ids : IdSource)
    (strides : List (Stride α)) :
    ((start ids : FrameReader α).run settings strides).session.FollowsTopics settings := by
  refine run_induction (·.FollowsTopics settings) ?step (Session.consistent_start ids) ?start
    strides
  case start =>
    intro place subscription found
    cases found
  case step =>
    intro moment after request consistent moves follows place next found
    cases before : moment.reader.session.subscriptions[place]? with
    | none =>
        obtain ⟨topic, id, _, rfl⟩ := moves.added consistent before found
        exact ⟨topic, id, .refl _⟩
    | some subscription =>
        obtain ⟨topic, id, keeps⟩ := follows place subscription before
        obtain ⟨_, present, turn⟩ := moves.turn consistent before
        cases found.symm.trans present
        exact ⟨topic, id, keeps.trans turn.keeps⟩

/-- **Live subscriptions have not been told their end**, between two parts of a frame either. -/
theorem untold_run (settings : ClientSettings) (ids : IdSource) (strides : List (Stride α)) :
    ((start ids : FrameReader α).run settings strides).session.Untold := by
  refine run_induction Session.Untold ?step (Session.consistent_start ids) ?start strides
  case start =>
    intro place subscription found
    cases found
  case step =>
    intro moment after request consistent moves untold place next found still
    cases before : moment.reader.session.subscriptions[place]? with
    | none =>
        obtain ⟨topic, id, _, rfl⟩ := moves.added consistent before found
        exact ⟨rfl, rfl⟩
    | some subscription =>
        obtain ⟨_, present, turn⟩ := moves.turn consistent before
        cases found.symm.trans present
        exact turn.untold still (untold place subscription before (turn.live_of_live still))

end FrameReader

end LedgerClient
