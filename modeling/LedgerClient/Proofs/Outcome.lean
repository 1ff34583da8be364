import LedgerClient.Error.Basic
import Mathlib.Data.List.Forall2

/-! # Outcomes of steps

A computation of several steps succeeds when each of its steps does
(`LedgerClient.Outcome.bind_eq_ok_iff`), and a step made for every entry of a list
succeeds when it succeeds for each entry (`LedgerClient.Outcome.mapM_eq_ok_iff`). It can
only go wrong as its steps do (`LedgerClient.Outcome.faultsIn_bind`). Where the steps look at
demands one after the other, the first demand that is not met gives the fault
(`LedgerClient.Outcome.SettledBy`).
-/

namespace LedgerClient.Outcome

variable {α β ε : Type}

/-- A fault is no value. -/
@[simp] theorem throw_ne_ok {fault : ε} {value : α} :
    (throw fault : Except ε α) ≠ .ok value := by
  intro impossible
  cases impossible

/-- Both steps have to succeed. -/
theorem bind_eq_ok_iff {outcome : Except ε α} {next : α → Except ε β} {value : β} :
    (outcome >>= next) = .ok value ↔ ∃ found, outcome = .ok found ∧ next found = .ok value := by
  cases outcome with
  | error fault =>
      refine iff_of_false throw_ne_ok ?_
      rintro ⟨found, impossible, _⟩
      cases impossible
  | ok found =>
      constructor
      · intro continued
        exact ⟨found, rfl, continued⟩
      · rintro ⟨other, same, continued⟩
        cases same
        exact continued

/-- A step that does nothing gives its value. -/
@[simp] theorem pure_eq_ok_iff {value found : α} :
    (pure value : Except ε α) = .ok found ↔ value = found := by
  constructor
  · intro same
    cases same
    rfl
  · rintro rfl
    rfl

/-- A computation that refuses some cases goes on in the others. -/
theorem refuse_eq_ok_iff {refused : Prop} [Decidable refused] {fault : LedgerError}
    {unreached : β → Except LedgerError α} {next : Except LedgerError α} {value : α} :
    (if refused then throw fault >>= unreached else next) = .ok value ↔
      ¬ refused ∧ next = .ok value := by
  by_cases holds : refused
  · rw [if_pos holds]
    refine iff_of_false throw_ne_ok ?_
    rintro ⟨allowed, _⟩
    exact allowed holds
  · rw [if_neg holds]
    exact (and_iff_right holds).symm

/-- A step for every entry of a list gives one value for each entry. -/
theorem mapM_eq_ok_iff {step : α → Except LedgerError β} {entries : List α} {found : List β} :
    entries.mapM step = .ok found ↔
      List.Forall₂ (fun entry value => step entry = .ok value) entries found := by
  induction entries generalizing found with
  | nil =>
      rw [List.mapM_nil, pure_eq_ok_iff, List.forall₂_nil_left_iff]
      exact eq_comm
  | cons entry entries ih =>
      rw [List.mapM_cons, bind_eq_ok_iff]
      simp only [bind_eq_ok_iff, pure_eq_ok_iff, ih]
      rw [List.forall₂_cons_left_iff]
      constructor
      · rintro ⟨value, stepped, values, rest, rfl⟩
        exact ⟨value, values, stepped, rest, rfl⟩
      · rintro ⟨value, values, stepped, rest, rfl⟩
        exact ⟨value, stepped, values, rest, rfl⟩

/-- A step made for every entry of a list goes wrong at the first entry for which it does. -/
theorem exists_of_mapM_eq_error {step : α → Except LedgerError β} {entries : List α}
    {fault : LedgerError} (failed : entries.mapM step = .error fault) :
    ∃ before entry after, entries = before ++ entry :: after ∧
      (∀ earlier ∈ before, ∃ value, step earlier = .ok value) ∧ step entry = .error fault := by
  induction entries with
  | nil => cases failed
  | cons entry rest ih =>
      rw [List.mapM_cons] at failed
      cases first : step entry with
      | error other =>
          rw [first] at failed
          cases failed
          exact ⟨[], entry, rest, rfl, fun _ member => (List.not_mem_nil member).elim, first⟩
      | ok value =>
          cases others : rest.mapM step with
          | ok values =>
              rw [first, others] at failed
              cases failed
          | error other =>
              rw [first, others] at failed
              cases failed
              obtain ⟨before, later, after, rfl, fine, wrong⟩ := ih others
              refine ⟨entry :: before, later, after, rfl, ?_, wrong⟩
              exact List.forall_mem_cons.mpr ⟨⟨value, first⟩, fine⟩

/-- A check of every entry of a list succeeds when it does for each entry. -/
theorem forM_eq_ok_iff {check : α → Except LedgerError Unit} {entries : List α} :
    entries.forM check = .ok () ↔ ∀ entry ∈ entries, check entry = .ok () := by
  induction entries with
  | nil => exact iff_of_true rfl fun _ member => (List.not_mem_nil member).elim
  | cons entry entries ih =>
      rw [List.forM, bind_eq_ok_iff, List.forall_mem_cons]
      simp only [ih]
      exact ⟨fun ⟨_, first, rest⟩ => ⟨first, rest⟩, fun ⟨first, rest⟩ => ⟨(), first, rest⟩⟩

/-- A computation that can only go wrong in allowed ways. -/
def FaultsIn (allowed : LedgerError → Prop) (outcome : Except LedgerError α) : Prop :=
  ∀ fault, outcome = .error fault → allowed fault

variable {allowed : LedgerError → Prop}

/-- What succeeds gives no fault. -/
theorem faultsIn_of_eq_ok {outcome : Except LedgerError α} {value : α}
    (done : outcome = .ok value) : FaultsIn allowed outcome := by
  rintro fault failed
  rw [done] at failed
  cases failed

/-- A step that does nothing gives no fault. -/
theorem faultsIn_pure {value : α} : FaultsIn allowed (pure value) := faultsIn_of_eq_ok rfl

/-- The faults of two steps in a row are those of either. -/
theorem faultsIn_bind {outcome : Except LedgerError α} {next : α → Except LedgerError β}
    (first : FaultsIn allowed outcome)
    (second : ∀ value, outcome = .ok value → FaultsIn allowed (next value)) :
    FaultsIn allowed (outcome >>= next) := by
  cases outcome with
  | error fault =>
      rintro _ failed
      cases failed
      exact first fault rfl
  | ok value => exact second value rfl

/-- The faults of a step that is taken for each entry are those of the step. -/
theorem faultsIn_mapM {step : α → Except LedgerError β} {entries : List α}
    (each : ∀ entry ∈ entries, FaultsIn allowed (step entry)) :
    FaultsIn allowed (entries.mapM step) := by
  induction entries with
  | nil => exact faultsIn_pure
  | cons entry entries ih =>
      rw [List.mapM_cons]
      refine faultsIn_bind (each entry List.mem_cons_self) fun value _ => ?_
      refine faultsIn_bind (ih fun other member => ?_) fun values _ => faultsIn_pure
      exact each other (List.mem_cons_of_mem _ member)

/-- What goes wrong in no other way than some, and does not succeed, goes wrong so. -/
theorem FaultsIn.exists_of_ne_ok {outcome : Except LedgerError α}
    (only : FaultsIn allowed outcome) (fails : ∀ value, outcome ≠ .ok value) :
    ∃ fault, allowed fault ∧ outcome = .error fault := by
  cases same : outcome with
  | ok value => exact (fails value same).elim
  | error fault => exact ⟨fault, only fault same, rfl⟩

section Demands

variable {δ : Type} {met : δ → Prop} {blames : δ → LedgerError → Prop} {demand : δ}
  {demands rest : List δ}

/-- **An outcome settled by demands in order.** The first one that is not met gives the fault,
and if all are met there is a value. -/
inductive SettledBy (met : δ → Prop) (blames : δ → LedgerError → Prop) :
    List δ → Except LedgerError α → Prop
  | done (value : α) : SettledBy met blames [] (.ok value)
  | unmet {demand : δ} {rest : List δ} {fault : LedgerError} (fails : ¬ met demand)
      (blamed : blames demand fault) : SettledBy met blames (demand :: rest) (.error fault)
  | passed {demand : δ} {rest : List δ} {outcome : Except LedgerError α} (holds : met demand)
      (later : SettledBy met blames rest outcome) : SettledBy met blames (demand :: rest) outcome

/-- Steps one after the other are settled by their demands one after the other. -/
theorem SettledBy.bind {step : Except LedgerError α} {next : α → Except LedgerError β}
    (first : SettledBy met blames demands step)
    (second : ∀ value, step = .ok value → SettledBy met blames rest (next value)) :
    SettledBy met blames (demands ++ rest) (step >>= next) := by
  induction first with
  | done value => exact second value rfl
  | unmet fails blamed => exact .unmet fails blamed
  | passed holds _ ih => exact .passed holds (ih second)

/-- A refusal looks at one demand. -/
theorem SettledBy.refuse {refused : Prop} [Decidable refused] {fault : LedgerError}
    {unreached : β → Except LedgerError α} {next : Except LedgerError α}
    (refuses : refused ↔ ¬ met demand) (blamed : refused → blames demand fault)
    (later : SettledBy met blames rest next) :
    SettledBy met blames (demand :: rest)
      (if refused then throw fault >>= unreached else next) := by
  by_cases holds : refused
  · rw [if_pos holds]
    exact .unmet (refuses.mp holds) (blamed holds)
  · rw [if_neg holds]
    exact .passed (not_not.mp (refuses.not.mp holds)) later

/-- One demand settles a step that succeeds where it is met. -/
theorem SettledBy.of_iff {step : Except LedgerError α}
    (accepts : (∃ value, step = .ok value) ↔ met demand)
    (blamed : FaultsIn (blames demand) step) : SettledBy met blames [demand] step := by
  cases same : step with
  | ok value => exact .passed (accepts.mp ⟨value, same⟩) (.done value)
  | error fault =>
      refine .unmet ?_ (blamed fault same)
      intro holds
      obtain ⟨value, done⟩ := accepts.mpr holds
      rw [same] at done
      cases done

/-- The outcome is a success exactly if all demands are met. -/
theorem SettledBy.exists_ok_iff {outcome : Except LedgerError α}
    (settled : SettledBy met blames demands outcome) :
    (∃ value, outcome = .ok value) ↔ ∀ demand ∈ demands, met demand := by
  induction settled with
  | done value => exact iff_of_true ⟨value, rfl⟩ fun _ member => (List.not_mem_nil member).elim
  | unmet fails _ =>
      refine iff_of_false ?_ fun all => fails (all _ List.mem_cons_self)
      rintro ⟨value, impossible⟩
      cases impossible
  | passed holds _ ih =>
      rw [ih, List.forall_mem_cons]
      exact (and_iff_right holds).symm

/-- A failure is blamed on the first demand that is not met. -/
theorem SettledBy.exists_first {outcome : Except LedgerError α} {fault : LedgerError}
    (settled : SettledBy met blames demands outcome) (failed : outcome = .error fault) :
    ∃ before demand after, demands = before ++ demand :: after ∧
      (∀ earlier ∈ before, met earlier) ∧ ¬ met demand ∧ blames demand fault := by
  induction settled with
  | done => cases failed
  | unmet fails blamed =>
      cases failed
      exact ⟨[], _, _, rfl, fun _ member => (List.not_mem_nil member).elim, fails, blamed⟩
  | passed holds _ ih =>
      obtain ⟨before, demand, after, rfl, fine, fails, blamed⟩ := ih failed
      exact ⟨_ :: before, demand, after, rfl, List.forall_mem_cons.mpr ⟨holds, fine⟩, fails, blamed⟩

end Demands

end LedgerClient.Outcome
