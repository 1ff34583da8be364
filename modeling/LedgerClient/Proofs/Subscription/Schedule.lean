import LedgerClient.Subscription.Incoming

/-! # Schedules

A schedule says what comes to a client and how much time goes by in between. A peer is silent
when the wait is over since the start and since its last pong. Pings are sent every nine tenths
of the wait. Who answers each of them within the tenth that is left is never silent
(`LedgerClient.not_silent_of_answered`): the last answer came after the last ping but one, and
the wait since then is not over before the time for the next answer is.
-/

namespace LedgerClient

variable {α : Type}

/-- The nanoseconds that an event takes. -/
def ClientEvent.span : ClientEvent α → Nat
  | .elapsed span => span.nanoseconds
  | _ => 0

/-- Events after which nothing can be read. -/
def ClientEvent.endsConnection : ClientEvent α → Bool
  | .close | .drop | .closed | .broken _ | .unreadable _ => true
  | _ => false

/-- What of a schedule a client takes notice of. -/
def noticed (schedule : List (Occurrence α)) : List (ClientEvent α) :=
  schedule.filterMap Occurrence.event?

/-- The instant at which some events are over, counted in nanoseconds from the start. -/
def timeOf : List (ClientEvent α) → Nat
  | [] => 0
  | event :: later => event.span + timeOf later

/-- A pong comes at an instant. -/
def PongAt (events : List (ClientEvent α)) (instant : Nat) : Prop :=
  ∃ earlier, earlier ++ [.pong] <+: events ∧ timeOf earlier = instant

/-- The wait is over at an instant: it has passed since the start and since every pong. -/
def Overdue (wait : Nat) (events : List (ClientEvent α)) (instant : Nat) : Prop :=
  wait ≤ instant ∧ ∀ pong, PongAt events pong → pong + wait ≤ instant

/-- At the end of some events the wait is over. -/
def Silent (wait : Nat) (events : List (ClientEvent α)) : Prop :=
  Overdue wait events (timeOf events)

/-- Nothing has ended the reading: the connection lasts, and the wait has never been over. -/
def InTouch (wait : Nat) (events : List (ClientEvent α)) : Prop :=
  (∀ event ∈ events, event.endsConnection = false) ∧
    ∀ earlier, earlier <+: events → ¬ Silent wait earlier

/-- The wait runs out at an occurrence: nothing has ended the reading before, and now the wait is
over. -/
def RunsOut (wait : Duration) (schedule : List (Occurrence α)) (next : Occurrence α) : Prop :=
  InTouch wait.nanoseconds (noticed schedule) ∧
    Silent wait.nanoseconds (noticed (schedule ++ [next]))

/-- Time goes by, or the peer gives a sign of life. -/
def Occurrence.isKeepalive : Occurrence α → Bool
  | .incoming .ping | .incoming .pong | .other .pong | .other (.elapsed _) => true
  | _ => false

/-- Every ping whose time for an answer is over has been answered within that time, a tenth of the
wait. The pings are sent at the multiples of the period. -/
def Answered (wait period : Nat) (events : List (ClientEvent α)) : Prop :=
  ∀ count, 0 < count → 10 * (count * period) + wait ≤ 10 * timeOf events →
    ∃ pong, PongAt events pong ∧ count * period ≤ pong ∧ 10 * pong < 10 * (count * period) + wait

section Schedules

variable {events earlier : List (ClientEvent α)} {event : ClientEvent α}
  {wait period instant : Nat}

/-- What is noticed next comes last. -/
@[simp] theorem noticed_concat (schedule : List (Occurrence α)) (next : Occurrence α) :
    noticed (schedule ++ [next]) = noticed schedule ++ next.event?.toList := by
  cases happens : next.event? with
  | none => simp [noticed, happens]
  | some event => simp [noticed, happens]

/-- The times of two stretches add up. -/
@[simp] theorem timeOf_append (earlier later : List (ClientEvent α)) :
    timeOf (earlier ++ later) = timeOf earlier + timeOf later := by
  induction earlier with
  | nil => exact (Nat.zero_add _).symm
  | cons event earlier ih => rw [List.cons_append, timeOf, timeOf, ih, Nat.add_assoc]

/-- The time of one event is its span. -/
@[simp] theorem timeOf_singleton (event : ClientEvent α) : timeOf [event] = event.span := rfl

private theorem timeOf_le_of_isPrefix (front : earlier <+: events) :
    timeOf earlier ≤ timeOf events := by
  obtain ⟨later, rfl⟩ := front
  rw [timeOf_append]
  exact Nat.le_add_right ..

private theorem PongAt.of_isPrefix (pong : PongAt earlier instant) (front : earlier <+: events) :
    PongAt events instant := by
  obtain ⟨before, shown, rfl⟩ := pong
  exact ⟨before, shown.trans front, rfl⟩

/-- No pong has come later than now. -/
theorem PongAt.le_timeOf (pong : PongAt events instant) : instant ≤ timeOf events := by
  obtain ⟨before, shown, rfl⟩ := pong
  exact timeOf_le_of_isPrefix ((List.prefix_append ..).trans shown)

private theorem not_pongAt_nil : ¬ PongAt ([] : List (ClientEvent α)) instant := by
  intro pong
  obtain ⟨before, shown, _⟩ := pong
  have nothing := (List.append_eq_nil_iff.mp (List.prefix_nil.mp shown)).2
  cases nothing

private theorem pongAt_concat : PongAt (events ++ [event]) instant ↔
    PongAt events instant ∨ event = .pong ∧ timeOf events = instant := by
  constructor
  · intro pong
    obtain ⟨before, shown, rfl⟩ := pong
    rcases List.prefix_concat_iff.mp shown with same | inside
    · obtain ⟨rfl, last⟩ := List.append_inj' same rfl
      exact .inr ⟨(List.singleton_inj.mp last).symm, rfl⟩
    · exact .inl ⟨before, inside, rfl⟩
  · intro pong
    rcases pong with earlier | ⟨rfl, rfl⟩
    · exact earlier.of_isPrefix (List.prefix_append ..)
    · exact ⟨events, List.prefix_rfl, rfl⟩

/-- At the start the peer is in touch. -/
theorem inTouch_nil (positive : 0 < wait) : InTouch wait ([] : List (ClientEvent α)) := by
  refine ⟨fun _ absent => (List.not_mem_nil absent).elim, fun earlier front silent => ?_⟩
  rw [List.prefix_nil.mp front] at silent
  exact Nat.not_le.mpr positive silent.1

/-- The peer stays in touch unless the connection ends or the wait is over. -/
theorem inTouch_concat : InTouch wait (events ++ [event]) ↔ InTouch wait events ∧
    event.endsConnection = false ∧ ¬ Silent wait (events ++ [event]) := by
  simp only [InTouch, List.prefix_concat_iff, List.forall_mem_append, List.forall_mem_singleton,
    forall_eq_or_imp]
  exact ⟨fun ⟨⟨lasts, last⟩, loud, before⟩ => ⟨⟨lasts, before⟩, last, loud⟩,
    fun ⟨⟨lasts, before⟩, last, loud⟩ => ⟨⟨lasts, last⟩, loud, before⟩⟩

/-- What is answered in time has been so before. -/
theorem Answered.of_isPrefix (answered : Answered wait period events)
    (front : earlier <+: events) : Answered wait period earlier := by
  intro count positive passed
  have later := timeOf_le_of_isPrefix front
  obtain ⟨pong, came, after, inTime⟩ := answered count positive (by omega)
  obtain ⟨before, shown, rfl⟩ := came
  refine ⟨_, ⟨before, ?_, rfl⟩, after, inTime⟩
  -- else all of `earlier` comes before this pong, and the time for the answer is not passed
  rcases List.prefix_or_prefix_of_prefix shown front with inside | beyond
  · exact inside
  · rcases List.prefix_concat_iff.mp beyond with same | short
    · exact same ▸ List.prefix_rfl
    · have := timeOf_le_of_isPrefix short
      omega

/-- When the wait is over, so is the time for an answer to some ping, and not yet that for the
next. -/
theorem exists_last_ping (positive : 0 < wait) (tenths : 10 * period = 9 * wait)
    (waited : wait ≤ instant) : ∃ count, 0 < count ∧
      10 * (count * period) + wait ≤ 10 * instant ∧
      10 * instant < 10 * (count * period) + 10 * wait := by
  have low := Nat.div_mul_le_self (10 * instant - wait) (10 * period)
  have high : 10 * instant - wait <
      (10 * instant - wait) / (10 * period) * (10 * period) + 10 * period :=
    Nat.lt_div_mul_add (by omega)
  rw [Nat.mul_left_comm] at low high
  refine ⟨(10 * instant - wait) / (10 * period), Nat.div_pos (by omega) (by omega), ?_, ?_⟩
  · omega
  · omega

/-- **Who answers in time is not silent.** A period is nine tenths of the wait. -/
theorem not_silent_of_answered (positive : 0 < wait) (tenths : 10 * period = 9 * wait)
    (answered : Answered wait period events) : ¬ Silent wait events := by
  intro silent
  obtain ⟨waited, quiet⟩ := silent
  obtain ⟨count, sent, passed, last⟩ := exists_last_ping positive tenths waited
  obtain ⟨pong, came, after, _⟩ := answered count sent passed
  have := quiet pong came
  omega

end Schedules

/-! ### The clock -/

namespace Keepalive

/-- The clock after an event. -/
def after (clock : Keepalive) : ClientEvent α → Keepalive
  | .elapsed span => clock.advance span
  | .pong => clock.pong
  | _ => clock

/-- A clock tells the time since some events began, and when the wait is over. -/
structure Tells (clock : Keepalive) (wait period : Duration) (events : List (ClientEvent α)) :
    Prop where
  wait_eq : clock.wait = wait
  period_eq : clock.period = period
  now : clock.now.nanoseconds = timeOf events
  deadline : ∀ instant, clock.deadline.nanoseconds ≤ instant ↔
    Overdue wait.nanoseconds events instant

variable {clock : Keepalive} {wait period : Duration} {events : List (ClientEvent α)}

/-- The wait is over once the deadline has come. -/
theorem isExpired_iff :
    clock.isExpired = true ↔ clock.deadline.nanoseconds ≤ clock.now.nanoseconds :=
  decide_eq_true_iff

/-- A pong begins a new wait. -/
theorem not_isExpired_pong (positive : 0 < clock.wait.nanoseconds) :
    ¬ clock.pong.isExpired = true := by
  rw [isExpired_iff]
  exact Nat.not_le.mpr (Nat.lt_add_of_pos_right positive)

/-- Time passes in one go or in two. -/
theorem advance_advance (clock : Keepalive) (first rest : Duration) :
    (clock.advance first).advance rest =
      clock.advance ⟨first.nanoseconds + rest.nanoseconds⟩ := by
  simp only [advance, Nat.add_assoc]

/-- What is over stays over. -/
theorem isExpired_advance (expired : clock.isExpired = true) (span : Duration) :
    (clock.advance span).isExpired = true := by
  rw [isExpired_iff] at expired ⊢
  exact Nat.le_add_right_of_le expired

/-- The pings of a span are due in one go or in two. -/
theorem pingsDue_add (clock : Keepalive) (first rest : Duration) :
    clock.pingsDue ⟨first.nanoseconds + rest.nanoseconds⟩ =
      clock.pingsDue first + (clock.advance first).pingsDue rest := by
  have before : clock.now.nanoseconds / clock.period.nanoseconds ≤
      (clock.advance first).now.nanoseconds / clock.period.nanoseconds :=
    Nat.div_le_div_right (Nat.le_add_right ..)
  have after : (clock.advance first).now.nanoseconds / clock.period.nanoseconds ≤
      ((clock.advance first).advance rest).now.nanoseconds / clock.period.nanoseconds :=
    Nat.div_le_div_right (Nat.le_add_right ..)
  have same : (clock.advance first).period = clock.period := rfl
  simp only [pingsDue, ← advance_advance, same]
  omega

/-- The clock tells the time from the start. -/
theorem tells_start (wait period : Duration) :
    (start wait period).Tells wait period ([] : List (ClientEvent α)) where
  wait_eq := rfl
  period_eq := rfl
  now := rfl
  deadline _ := (and_iff_left fun _ pong => (not_pongAt_nil pong).elim).symm

namespace Tells

variable (tells : clock.Tells wait period events)

include tells

/-- **The clock goes on to tell the time** after each event. -/
theorem after (event : ClientEvent α) :
    (clock.after event).Tells wait period (events ++ [event]) := by
  have other (idle : event.span = 0) (kept : clock.after event = clock)
      (silent : event ≠ .pong) : (clock.after event).Tells wait period (events ++ [event]) := by
    rw [kept]
    refine ⟨tells.wait_eq, tells.period_eq, ?_, fun instant => ?_⟩
    · rw [tells.now, timeOf_append, timeOf_singleton, idle, Nat.add_zero]
    · simp only [tells.deadline, Overdue, pongAt_concat, silent, false_and, or_false]
  cases event with
  | elapsed span =>
      refine ⟨tells.wait_eq, tells.period_eq, ?_, fun instant => ?_⟩
      · rw [timeOf_append, timeOf_singleton, ← tells.now]
        rfl
      · simp only [Overdue, pongAt_concat, reduceCtorEq, false_and, or_false]
        exact tells.deadline instant
  | pong =>
      refine ⟨tells.wait_eq, tells.period_eq, ?_, fun instant => ?_⟩
      · rw [timeOf_append, timeOf_singleton, ← tells.now]
        rfl
      · change clock.now.nanoseconds + clock.wait.nanoseconds ≤ instant ↔ _
        rw [tells.now, tells.wait_eq]
        constructor
        · intro passed
          refine ⟨by omega, fun pong came => ?_⟩
          have := came.le_timeOf
          rw [timeOf_append, timeOf_singleton] at this
          exact Nat.le_trans (Nat.add_le_add_right this wait.nanoseconds) passed
        · intro overdue
          exact overdue.2 _ (pongAt_concat.mpr (.inr ⟨rfl, rfl⟩))
  | subscribe | receive | unsubscribe | release | close | drop | frame | closed | broken
  | unreadable => exact other rfl rfl nofun

/-- The peer is silent when the clock says that the wait is over. -/
theorem silent_iff : Silent wait.nanoseconds events ↔ clock.isExpired = true := by
  rw [Silent, ← tells.deadline, ← tells.now, isExpired_iff]

end Tells

end Keepalive

end LedgerClient
