import LedgerClient.Subscription.Basic

/-! # What goes into a subscription and what comes out

Putting a result in comes to one of four things (`LedgerClient.Subscription.Puts`), and
taking something out to one of five (`LedgerClient.Subscription.Takes`). Results come out as
they went in (`LedgerClient.Subscription.values_receive`), and an error goes in when nothing
waits before it (`LedgerClient.Subscription.items_fail`).
-/

namespace LedgerClient

namespace BoundedQueue

variable {α : Type} {value : α} {queue after : BoundedQueue α}

private theorem capacity_of_push? (pushed : queue.push? value = some after) :
    after.capacity = queue.capacity := by
  unfold push? at pushed
  split at pushed
  · cases pushed
    rfl
  · cases pushed

private theorem capacity_of_pop? (popped : queue.pop? = some (value, after)) :
    after.capacity = queue.capacity := by
  unfold pop? at popped
  split at popped
  · cases popped
  · cases popped
    rfl

private theorem exists_pop? {rest : List α} (front : queue.items = value :: rest) :
    ∃ after, queue.pop? = some (value, after) ∧ after.items = rest := by
  unfold pop?
  split
  case h_1 empty =>
      rw [empty] at front
      cases front
  case h_2 same =>
      rw [same] at front
      cases front
      exact ⟨_, rfl, rfl⟩

end BoundedQueue

/-- The results that somebody gets. -/
def Receipt.values {α : Type} : Receipt α → List α
  | .value taken => [taken]
  | .pending | .failed _ => []

namespace Subscription

variable {α : Type}

/-- What never changes, whatever goes in or comes out. -/
structure Keeps (before after : Subscription α) : Prop where
  requestId : after.requestId = before.requestId
  decode : after.decode = before.decode
  resultCapacity : after.results.capacity = before.results.capacity
  errorCapacity : after.errors.capacity = before.errors.capacity

/-- What putting a result in comes to. -/
inductive Puts (subscription : Subscription α) (result : Json) :
    Except SubscriptionError (Subscription α) → Prop
  | unreadable {reason} (read : subscription.decode result = .error reason) :
      Puts subscription result (.error reason)
  | abandoned {value} (read : subscription.decode result = .ok value)
      (unheld : subscription.isHeld = false) : Puts subscription result (.error .closed)
  | full {value} (read : subscription.decode result = .ok value)
      (held : subscription.isHeld = true)
      (noRoom : subscription.results.items.length = subscription.results.capacity) :
      Puts subscription result (.error (.capacityExceeded subscription.results.capacity))
  | done {value results} (read : subscription.decode result = .ok value)
      (held : subscription.isHeld = true)
      (pushed : subscription.results.push? value = some results) :
      Puts subscription result (.ok { subscription with results })

/-- What taking something out comes to, and what it leaves. -/
inductive Takes (subscription : Subscription α) : Bool → Receipt α → Subscription α → Prop
  | seen {isCancelled} (closed : subscription.isClosed = true) :
      Takes subscription isCancelled (.failed .closed) subscription
  | cancelled (unseen : subscription.isClosed = false) :
      Takes subscription true (.failed .cancelled) subscription
  | told {reason errors} (unseen : subscription.isClosed = false)
      (popped : subscription.errors.pop? = some (reason, errors)) :
      Takes subscription false (.failed reason) { subscription with errors, isClosed := true }
  | value {value results} (unseen : subscription.isClosed = false)
      (quiet : subscription.errors.pop? = none)
      (popped : subscription.results.pop? = some (value, results)) :
      Takes subscription false (.value value) { subscription with results }
  | nothing (unseen : subscription.isClosed = false) (quiet : subscription.errors.pop? = none)
      (empty : subscription.results.pop? = none) : Takes subscription false .pending subscription

/-- What is left alone keeps everything. -/
theorem Keeps.refl (subscription : Subscription α) : subscription.Keeps subscription :=
  ⟨rfl, rfl, rfl, rfl⟩

/-- What two changes keep is kept. -/
theorem Keeps.trans {first second third : Subscription α} (early : first.Keeps second)
    (late : second.Keeps third) : first.Keeps third :=
  ⟨late.requestId.trans early.requestId, late.decode.trans early.decode,
    late.resultCapacity.trans early.resultCapacity, late.errorCapacity.trans early.errorCapacity⟩

variable {subscription next : Subscription α} {result : Json} {reason : SubscriptionError}
  {isCancelled : Bool}

/-! ### Putting in -/

/-- Delivering a result puts it behind the others, or says why not. -/
theorem puts_deliver (subscription : Subscription α) (result : Json) :
    subscription.Puts result (subscription.deliver result) := by
  unfold deliver
  cases read : subscription.decode result with
  | error reason => exact .unreadable read
  | ok value =>
      cases held : subscription.isHeld with
      | false => exact .abandoned read held
      | true =>
          simp only [Bool.not_true, Bool.false_eq_true, if_false]
          cases pushed : subscription.results.push? value with
          | none => exact .full read held (BoundedQueue.push?_eq_none_iff.mp pushed)
          | some results =>
              rw [← held]
              exact .done read held pushed

/-- **A result that goes in** waits behind all others, and changes nothing else. -/
theorem exists_of_deliver (done : subscription.deliver result = .ok next) :
    ∃ value results, subscription.decode result = .ok value ∧
      results.items = subscription.results.items ++ [value] ∧
        results.capacity = subscription.results.capacity ∧
          next = { subscription with results } := by
  have puts := subscription.puts_deliver result
  rw [done] at puts
  cases puts with
  | done read _ pushed =>
      exact ⟨_, _, read, BoundedQueue.items_of_push? pushed,
        BoundedQueue.capacity_of_push? pushed, rfl⟩

/-- A result that goes in changes nothing but the results. -/
theorem exists_results_of_deliver (done : subscription.deliver result = .ok next) :
    ∃ results, next = { subscription with results } := by
  obtain ⟨_, results, _, _, _, same⟩ := exists_of_deliver done
  exact ⟨results, same⟩

/-- A result that goes in keeps what identifies the subscription, and the server's id. -/
theorem keeps_of_deliver (done : subscription.deliver result = .ok next) :
    subscription.Keeps next ∧ next.serverId = subscription.serverId := by
  obtain ⟨_, _, _, _, capacity, rfl⟩ := exists_of_deliver done
  exact ⟨⟨rfl, rfl, capacity, rfl⟩, rfl⟩

/-- An error changes nothing but the errors that wait. -/
theorem exists_fail (subscription : Subscription α) (reason : SubscriptionError) :
    ∃ errors : BoundedQueue SubscriptionError, errors.capacity = subscription.errors.capacity ∧
      subscription.fail reason = { subscription with errors } := by
  unfold fail
  split
  · exact ⟨subscription.errors, rfl, rfl⟩
  · cases pushed : subscription.errors.push? reason with
    | none => exact ⟨subscription.errors, rfl, rfl⟩
    | some errors => exact ⟨errors, BoundedQueue.capacity_of_push? pushed, rfl⟩

/-- A subscription that is told an error keeps what identifies it. -/
theorem keeps_fail : subscription.Keeps (subscription.fail reason) := by
  obtain ⟨errors, capacity, same⟩ := subscription.exists_fail reason
  rw [same]
  exact ⟨rfl, rfl, rfl, capacity⟩

/-- A subscription that is told an error keeps the server's id. -/
theorem serverId_fail : (subscription.fail reason).serverId = subscription.serverId := by
  obtain ⟨_, _, same⟩ := subscription.exists_fail reason
  rw [same]

/-- A subscription that is told an error keeps the results that wait. -/
theorem results_fail : (subscription.fail reason).results = subscription.results := by
  obtain ⟨_, _, same⟩ := subscription.exists_fail reason
  rw [same]

/-- What waits after a failure is its reason, or has waited before. -/
theorem mem_errors_fail {waiting : SubscriptionError}
    (waits : waiting ∈ (subscription.fail reason).errors.items) :
    waiting ∈ subscription.errors.items ∨ waiting = reason := by
  unfold fail at waits
  split at waits
  · exact .inl waits
  · cases pushed : subscription.errors.push? reason with
    | none =>
        rw [pushed] at waits
        exact .inl waits
    | some errors =>
        rw [pushed, Option.getD_some, BoundedQueue.items_of_push? pushed, List.mem_append,
          List.mem_singleton] at waits
        exact waits

/-- **An error goes in** when none waits before it, if somebody can take it out. -/
theorem items_fail (held : subscription.isHeld = true) (quiet : subscription.errors.items = [])
    (room : 0 < subscription.errors.capacity) :
    (subscription.fail reason).errors.items = [reason] := by
  have fits : subscription.errors.push? reason ≠ none := by
    rw [ne_eq, BoundedQueue.push?_eq_none_iff, quiet]
    exact Nat.ne_of_lt room
  obtain ⟨errors, pushed⟩ := Option.ne_none_iff_exists'.mp fits
  simp only [fail, held, pushed, Bool.not_true, Bool.false_eq_true, if_false, Option.getD_some]
  rw [BoundedQueue.items_of_push? pushed, quiet]
  rfl

/-! ### Taking out -/

/-- Receiving takes the next thing that waits. -/
theorem takes_receive (subscription : Subscription α) (isCancelled : Bool) :
    subscription.Takes isCancelled (subscription.receive isCancelled).1
      (subscription.receive isCancelled).2 := by
  unfold receive
  split
  case isTrue closed => exact .seen closed
  case isFalse unclosed =>
    have unseen := eq_false_of_ne_true unclosed
    cases isCancelled with
    | true => exact .cancelled unseen
    | false =>
        rw [if_neg Bool.false_ne_true]
        cases told : subscription.errors.pop? with
        | some found => exact .told unseen told
        | none =>
            cases waiting : subscription.results.pop? with
            | some found => exact .value unseen told waiting
            | none => exact .nothing unseen told waiting

/-- A subscription that is received from keeps what identifies it. -/
theorem Takes.keeps {receipt : Receipt α} (takes : subscription.Takes isCancelled receipt next) :
    subscription.Keeps next ∧ next.serverId = subscription.serverId := by
  cases takes with
  | seen | cancelled | nothing => exact ⟨.refl _, rfl⟩
  | told _ popped => exact ⟨⟨rfl, rfl, rfl, BoundedQueue.capacity_of_pop? popped⟩, rfl⟩
  | value _ _ popped => exact ⟨⟨rfl, rfl, BoundedQueue.capacity_of_pop? popped, rfl⟩, rfl⟩

/-- A subscription that is received from keeps the method that ends it. -/
theorem Takes.unsubscribeMethod_eq {receipt : Receipt α}
    (takes : subscription.Takes isCancelled receipt next) :
    next.unsubscribeMethod = subscription.unsubscribeMethod := by
  cases takes with
  | seen | cancelled | nothing | told | value => rfl

/-- **Results come out as they went in**, the oldest one first. -/
theorem Takes.items_eq {receipt : Receipt α}
    (takes : subscription.Takes isCancelled receipt next) :
    receipt.values ++ next.results.items = subscription.results.items := by
  cases takes with
  | seen | cancelled | nothing | told => rfl
  | value _ _ popped => exact (BoundedQueue.items_of_pop? popped).symm

/-- A subscription is told nothing by being received from. -/
theorem Takes.untold {receipt : Receipt α} (takes : subscription.Takes isCancelled receipt next)
    (quiet : subscription.errors.items = []) (unseen : subscription.isClosed = false) :
    next.errors.items = [] ∧ next.isClosed = false := by
  cases takes with
  | seen | cancelled | nothing | value => exact ⟨quiet, unseen⟩
  | told _ popped =>
      rw [BoundedQueue.items_of_pop? popped] at quiet
      cases quiet

/-- **A reason that waits is told ahead of all results.** -/
theorem Takes.told_of_waiting {receipt : Receipt α} (takes : subscription.Takes false receipt next)
    (waits : subscription.errors.items = [reason]) (unseen : subscription.isClosed = false) :
    receipt = .failed reason ∧ next.isClosed = true := by
  obtain ⟨_, front, _⟩ := BoundedQueue.exists_pop? waits
  cases takes with
  | seen closed =>
      rw [unseen] at closed
      cases closed
  | told _ popped =>
      rw [front] at popped
      cases popped
      exact ⟨rfl, rfl⟩
  | value _ quiet | nothing _ quiet =>
      rw [front] at quiet
      cases quiet

/-- Whoever has stopped waiting takes nothing. -/
theorem Takes.eq_of_cancelled {receipt : Receipt α}
    (takes : subscription.Takes true receipt next) : next = subscription := by
  cases takes with
  | seen | cancelled => rfl

/-- Nothing is taken from a closed subscription. -/
theorem Takes.eq_of_closed {receipt : Receipt α}
    (takes : subscription.Takes isCancelled receipt next)
    (closed : subscription.isClosed = true) : receipt = .failed .closed ∧ next = subscription := by
  cases takes with
  | seen => exact ⟨rfl, rfl⟩
  | cancelled unseen | told unseen | value unseen | nothing unseen =>
      rw [closed] at unseen
      cases unseen

/-- Errors are taken from the front. -/
theorem Takes.errors_suffix {receipt : Receipt α}
    (takes : subscription.Takes isCancelled receipt next) :
    next.errors.items <:+ subscription.errors.items := by
  cases takes with
  | seen | cancelled | nothing | value => exact List.suffix_refl _
  | told _ popped =>
      rw [BoundedQueue.items_of_pop? popped]
      exact List.suffix_cons _ _

end Subscription

end LedgerClient
