import LedgerClient.Settings.Client

/-! # Nine tenths of a wait

Settings are checked from below only (`LedgerClient.ClientSettings.validate_eq_ok_iff`). The
time between pings is taken from nine times the wait, which must still be a number of seconds.
So a wait is accepted for which there is no such time, though nine tenths of it would be a
number of seconds as well (`LedgerClient.ClientSettings.pingsInTime_iff`).
-/

namespace LedgerClient.ClientSettings

variable {settings : ClientSettings} {period : Duration}

private theorem toNat_pos_iff {n : UInt64} : 0 < n.toNat ↔ n ≠ 0 := by
  rw [Nat.pos_iff_ne_zero, Ne, Ne, ← UInt64.toNat_inj]
  rfl

/-- **Which settings are accepted.** -/
theorem validate_eq_ok_iff : settings.validate = .ok () ↔
    0 < settings.pongWait.toNat ∧ 0 < settings.writeWait.toNat ∧
      0 < settings.resultCapacity.toNat ∧ 0 < settings.errorCapacity.toNat ∧
      settings.errorCapacity.toNat < settings.resultCapacity.toNat := by
  simp only [toNat_pos_iff, ← UInt64.lt_iff_toNat_lt, ← UInt64.not_le]
  unfold validate
  split
  case isTrue zero => simp [zero]
  split
  case isTrue zero => simp [zero]
  split
  case isTrue zero => simp [zero]
  split
  case isTrue zero => simp [zero]
  split
  case isTrue large => simp [large]
  case isFalse pong write results errors small => simp [pong, write, results, errors, small]

/-- The pong wait is ten times a number of tenths of a second. -/
theorem nanoseconds_pongLimit :
    settings.pongLimit.nanoseconds = 10 * (settings.pongWait.toNat * 100000000) := by
  simp only [pongLimit, Duration.ofSeconds, Duration.second]
  omega

/-- **The time between pings** is nine tenths of the wait, if nine times the wait is a number of
seconds. -/
theorem pingPeriod?_eq_some_iff : settings.pingPeriod? = some period ↔
    settings.pongWait.toNat * 9 < 2 ^ 64 ∧
      10 * period.nanoseconds = 9 * settings.pongLimit.nanoseconds := by
  obtain ⟨nanoseconds⟩ := period
  simp only [pingPeriod?, nanoseconds_pongLimit, Duration.second]
  split
  case isTrue fits =>
    rw [Option.some.injEq, Duration.mk.injEq]
    omega
  case isFalse exceeds =>
    refine iff_of_false (Option.some_ne_none _).symm ?_
    rintro ⟨fits, _⟩
    exact exceeds fits

/-- Pings go out often enough for a peer that answers at once, and not all the time. -/
def PingsInTime (settings : ClientSettings) : Prop :=
  ∃ period, settings.pingPeriod? = some period ∧
    10 * period.nanoseconds = 9 * settings.pongLimit.nanoseconds ∧
    0 < period.nanoseconds ∧ period.nanoseconds < settings.pongLimit.nanoseconds

/-- **Which accepted settings have a time to ping**: those with a wait whose ninefold is a
number of seconds. -/
theorem pingsInTime_iff (valid : settings.validate = .ok ()) :
    settings.PingsInTime ↔ settings.pongWait.toNat * 9 < 2 ^ 64 := by
  have waits : 0 < settings.pongWait.toNat := (validate_eq_ok_iff.mp valid).1
  have limit := settings.nanoseconds_pongLimit
  constructor
  · rintro ⟨period, given, _⟩
    exact (pingPeriod?_eq_some_iff.mp given).1
  · intro fits
    refine ⟨⟨9 * (settings.pongWait.toNat * 100000000)⟩, pingPeriod?_eq_some_iff.mpr ⟨fits, ?_⟩,
      ?_, ?_, ?_⟩
    all_goals
      dsimp only
      omega

/-- The longest wait whose ninefold is a number of seconds. -/
def longestWait : UInt64 := 2049638230412172401

/-- The longest wait that has a time to ping. -/
theorem pingsInTime_longestWait_iff :
    { standard with pongWait := longestWait }.validate = .ok () ∧
      ({ standard with pongWait := longestWait }.PingsInTime ↔ longestWait.toNat * 9 < 2 ^ 64) :=
  ⟨rfl, pingsInTime_iff rfl⟩

/-- With a second more there is no time to ping, and the settings are accepted all the same. -/
theorem not_pingsInTime_longer :
    { standard with pongWait := longestWait + 1 }.validate = .ok () ∧
      ¬ { standard with pongWait := longestWait + 1 }.PingsInTime := by
  refine ⟨rfl, ?_⟩
  rintro ⟨period, given, _⟩
  cases given

end LedgerClient.ClientSettings
