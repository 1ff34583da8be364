import LedgerClient.Address.Derived
import LedgerClient.Proofs.Outcome
import LedgerClient.Proofs.Sequence
import Mathlib.Order.Bounds.Defs

/-! # The search for a bump

Bumps are tried from the greatest down, so the one that is found is the greatest whose hash is off
the curve (`LedgerClient.Address.find?_bumps_eq_some_iff`,
`LedgerClient.Address.searches_find`). Finding looks at the number of the seeds without the bump
and deriving at the number with it, so a found address is derived again from its bump exactly if
a further seed is allowed (`LedgerClient.Address.recreates_iff`).
-/

namespace LedgerClient.Address

open Outcome (throw_ne_ok bind_eq_ok_iff refuse_eq_ok_iff pure_eq_ok_iff)

variable {seeds : List (List UInt8)} {program address : PublicKey} {bump : UInt8}
  {fault : LedgerError}

/-- Seeds that an address can be derived from. -/
structure Admissible (seeds : List (List UInt8)) : Prop where
  few : seeds.length ≤ 16
  short : ∀ seed ∈ seeds, seed.length ≤ 32

/-- Why seeds are refused: there are too many, or else one is too long. -/
inductive Refused (seeds : List (List UInt8)) : LedgerError → Prop
  | tooMany (many : 16 < seeds.length) : Refused seeds (.tooManySeeds seeds.length)
  | tooLong {before after : List (List UInt8)} {seed : List UInt8} (few : seeds.length ≤ 16)
      (split : seeds = before ++ seed :: after) (earlier : ∀ other ∈ before, other.length ≤ 32)
      (long : 32 < seed.length) : Refused seeds (.seedTooLong seed.length)

/-- The seeds pass exactly if they are admissible. -/
theorem checkSeeds_eq_ok_iff : checkSeeds seeds = .ok () ↔ Admissible seeds := by
  rw [checkSeeds, maxSeeds, maxSeedLength]
  split
  case isTrue many =>
    refine iff_of_false throw_ne_ok ?_
    rintro ⟨few, _⟩
    exact Nat.not_le_of_gt many few
  case isFalse few =>
    split
    case h_1 seed found =>
      have long := List.find?_some found
      rw [decide_eq_true_eq] at long
      refine iff_of_false throw_ne_ok ?_
      rintro ⟨_, short⟩
      exact Nat.not_le_of_gt long (short seed (List.mem_of_find?_eq_some found))
    case h_2 none =>
      refine iff_of_true rfl ⟨Nat.le_of_not_lt few, ?_⟩
      intro seed member
      have short := List.find?_eq_none.mp none seed member
      rw [decide_eq_true_eq] at short
      exact Nat.le_of_not_lt short

/-- The seeds are refused with the fault that belongs to them. -/
theorem checkSeeds_eq_error_iff : checkSeeds seeds = .error fault ↔ Refused seeds fault := by
  rw [checkSeeds, maxSeeds, maxSeedLength]
  split
  case isTrue many =>
    constructor
    · rintro ⟨⟩
      exact .tooMany many
    · rintro (_ | ⟨few, _, _, _⟩)
      · rfl
      · exact (Nat.not_le_of_gt many few).elim
  case isFalse few =>
    have first {seed : List UInt8} :
        seeds.find? (fun seed => decide (32 < seed.length)) = some seed ↔ 32 < seed.length ∧
          ∃ before after, seeds = before ++ seed :: after ∧
            ∀ other ∈ before, other.length ≤ 32 := by
      simp only [List.find?_eq_some_iff_append, decide_eq_true_eq, Bool.not_eq_true',
        decide_eq_false_iff_not, Nat.not_lt]
    constructor
    · intro failed
      split at failed
      case h_1 seed found =>
        cases failed
        obtain ⟨long, before, after, split, earlier⟩ := first.mp found
        exact .tooLong (Nat.le_of_not_lt few) split earlier long
      case h_2 => cases failed
    · rintro (many | ⟨_, split, earlier, long⟩)
      · exact (few many).elim
      · rw [first.mpr ⟨long, _, _, split, earlier⟩]

/-- Seeds from which no address can be derived are refused. -/
theorem exists_refused (inadmissible : ¬ Admissible seeds) : ∃ fault, Refused seeds fault := by
  cases checked : checkSeeds seeds with
  | ok => exact (inadmissible (checkSeeds_eq_ok_iff.mp checked)).elim
  | error fault => exact ⟨fault, checkSeeds_eq_error_iff.mp checked⟩

section Bumps

private theorem mem_bumps_iff : bump ∈ bumps ↔ 0 < bump := by
  rw [bumps, List.mem_map]
  constructor
  · rintro ⟨tried, member, rfl⟩
    have inside := List.mem_range.mp member
    rw [UInt8.lt_iff_toNat_lt, UInt8.toNat_ofNat', Nat.mod_eq_of_lt (by omega)]
    exact Nat.sub_pos_of_lt inside
  · intro positive
    have bounded := bump.toNat_lt
    rw [UInt8.lt_iff_toNat_lt, UInt8.toNat_zero] at positive
    refine ⟨255 - bump.toNat, List.mem_range.mpr (by omega), ?_⟩
    rw [Nat.sub_sub_self (by omega), UInt8.ofNat_toNat]

/-- Bumps are tried from the greatest on. -/
theorem pairwise_bumps : bumps.Pairwise (· > ·) := by
  rw [bumps, List.pairwise_map]
  refine List.pairwise_lt_range.imp_of_mem ?_
  intro first second _ member later
  have inside := List.mem_range.mp member
  rw [gt_iff_lt, UInt8.ofNat_lt_iff_lt (by rw [UInt8.size]; omega) (by rw [UInt8.size]; omega)]
  omega

/-- **The bump that is found** is the greatest that passes a test. -/
theorem find?_bumps_eq_some_iff {passes : UInt8 → Bool} :
    bumps.find? passes = some bump ↔ IsGreatest {other | 0 < other ∧ passes other = true} bump := by
  have asymmetric (first second : UInt8) (above : first > second) : ¬ second > first :=
    UInt8.lt_asymm above
  rw [Sequence.find?_eq_some_iff_of_pairwise asymmetric pairwise_bumps, mem_bumps_iff]
  constructor
  · rintro ⟨positive, passing, highest⟩
    refine ⟨⟨positive, passing⟩, ?_⟩
    rintro other ⟨otherPositive, otherPassing⟩
    apply UInt8.not_lt.mp
    intro above
    exact highest other (mem_bumps_iff.mpr otherPositive) above otherPassing
  · rintro ⟨⟨positive, passing⟩, upper⟩
    refine ⟨positive, passing, ?_⟩
    intro other member above otherPassing
    exact UInt8.not_le.mpr above (upper ⟨mem_bumps_iff.mp member, otherPassing⟩)

private theorem find?_bumps_eq_none_iff {passes : UInt8 → Bool} :
    bumps.find? passes = none ↔ ∀ bump, 0 < bump → ¬ passes bump = true := by
  simp only [List.find?_eq_none, mem_bumps_iff]

end Bumps

/-- The hash of seeds, a bump, a program and the marker. -/
def candidate (seeds : List (List UInt8)) (program : PublicKey) (bump : UInt8) : PublicKey :=
  ⟨Sha256.hash (seeds.flatten ++ [bump] ++ program.toList ++ derivationMarker)⟩

/-- A bump is hashed as one more seed. -/
theorem hashSeeds_concat :
    hashSeeds (seeds ++ [[bump]]) program = candidate seeds program bump := by
  rw [hashSeeds, List.flatten_concat, candidate]

/-- An address is derived from admissible seeds whose hash is off the curve. -/
theorem derive_eq_ok_iff : derive seeds program = .ok address ↔
    Admissible seeds ∧ hashSeeds seeds program = address ∧ address.isOnCurve = false := by
  simp only [derive, bind_eq_ok_iff, refuse_eq_ok_iff, pure_eq_ok_iff, Bool.not_eq_true]
  constructor
  · rintro ⟨_, checked, offCurve, rfl⟩
    exact ⟨checkSeeds_eq_ok_iff.mp checked, rfl, offCurve⟩
  · rintro ⟨admissible, rfl, offCurve⟩
    exact ⟨(), checkSeeds_eq_ok_iff.mpr admissible, offCurve, rfl⟩

private theorem derive_of_refused (refused : Refused seeds fault) :
    derive seeds program = .error fault := by
  rw [derive, checkSeeds_eq_error_iff.mpr refused]
  rfl

/-- The bumps whose hash is off the curve. Zero is not tried. -/
def clearing (seeds : List (List UInt8)) (program : PublicKey) : Set UInt8 :=
  {bump | 0 < bump ∧ (candidate seeds program bump).isOnCurve = false}

private theorem find_of_refused (refused : Refused seeds fault) :
    find seeds program = .error fault := by
  rw [find, checkSeeds_eq_error_iff.mpr refused]
  rfl

/-- Admissible seeds leave the search to the candidates of the bumps. -/
theorem find_of_admissible (admissible : Admissible seeds) : find seeds program =
    match bumps.find? fun bump => !(candidate seeds program bump).isOnCurve with
    | some bump => .ok (candidate seeds program bump, bump)
    | none => .error .noValidAddress := by
  rw [find, checkSeeds_eq_ok_iff.mpr admissible]
  simp only [hashSeeds_concat]
  rfl

/-- The search stops at the greatest bump that clears the curve. -/
theorem isGreatest_clearing_iff : IsGreatest (clearing seeds program) bump ↔
    bumps.find? (fun bump => !(candidate seeds program bump).isOnCurve) = some bump := by
  simp only [find?_bumps_eq_some_iff, Bool.not_eq_true', clearing]

/-- What is found is the candidate of the greatest bump that clears the curve. -/
theorem find_eq_ok_iff : find seeds program = .ok (address, bump) ↔
    Admissible seeds ∧ IsGreatest (clearing seeds program) bump ∧
      candidate seeds program bump = address := by
  by_cases admissible : Admissible seeds
  · rw [find_of_admissible admissible, and_iff_right admissible, isGreatest_clearing_iff]
    split
    case h_1 other found =>
      rw [found, Except.ok.injEq, Prod.mk.injEq, Option.some.injEq]
      constructor
      · rintro ⟨rfl, rfl⟩
        exact ⟨rfl, rfl⟩
      · rintro ⟨rfl, rfl⟩
        exact ⟨rfl, rfl⟩
    case h_2 none =>
      rw [none]
      exact iff_of_false throw_ne_ok fun found => Option.some_ne_none bump found.1.symm
  · obtain ⟨fault, refused⟩ := exists_refused admissible
    rw [find_of_refused refused]
    exact iff_of_false throw_ne_ok fun found => admissible found.1

/-- Nothing is found exactly if every candidate is on the curve. -/
theorem find_eq_noValidAddress_iff : find seeds program = .error .noValidAddress ↔
    Admissible seeds ∧ ∀ bump, 0 < bump → (candidate seeds program bump).isOnCurve = true := by
  by_cases admissible : Admissible seeds
  · have exhausted : bumps.find? (fun bump => !(candidate seeds program bump).isOnCurve) = none ↔
        ∀ bump, 0 < bump → (candidate seeds program bump).isOnCurve = true := by
      simp only [find?_bumps_eq_none_iff, Bool.not_eq_true', Bool.not_eq_false]
    rw [find_of_admissible admissible, and_iff_right admissible, ← exhausted]
    split
    case h_1 bump found =>
      rw [found]
      exact iff_of_false nofun (Option.some_ne_none bump)
    case h_2 none => exact iff_of_true rfl none
  · obtain ⟨fault, refused⟩ := exists_refused admissible
    rw [find_of_refused refused]
    refine iff_of_false ?_ fun found => admissible found.1
    cases refused <;> nofun

/-- What finding an address does. -/
structure Searches (seeds : List (List UInt8)) (program : PublicKey) : Prop where
  /-- It gives the greatest bump whose hash is off the curve, and that hash. -/
  finds : ∀ address bump, find seeds program = .ok (address, bump) ↔
    Admissible seeds ∧ IsGreatest (clearing seeds program) bump ∧
      candidate seeds program bump = address
  /-- No key belongs to what it gives. -/
  offCurve : ∀ address bump, find seeds program = .ok (address, bump) → address.isOnCurve = false
  /-- It gives up if the hashes of all bumps but zero are on the curve. -/
  exhausts : find seeds program = .error .noValidAddress ↔
    Admissible seeds ∧ ∀ bump, 0 < bump → (candidate seeds program bump).isOnCurve = true
  /-- It refuses other seeds, as deriving does. -/
  refuses : ¬ Admissible seeds → ∃ fault, Refused seeds fault ∧
    find seeds program = .error fault ∧ derive seeds program = .error fault

/-- **Finding an address tries bumps from the greatest down.** -/
theorem searches_find (seeds : List (List UInt8)) (program : PublicKey) :
    Searches seeds program where
  finds _ _ := find_eq_ok_iff
  offCurve address bump found := by
    obtain ⟨_, greatest, rfl⟩ := find_eq_ok_iff.mp found
    exact greatest.1.2
  exhausts := find_eq_noValidAddress_iff
  refuses inadmissible := by
    obtain ⟨fault, refused⟩ := exists_refused inadmissible
    exact ⟨fault, refused, find_of_refused refused, derive_of_refused refused⟩

/-- A found address is derived again from the same seeds and its bump. -/
def Recreates (seeds : List (List UInt8)) (program : PublicKey) : Prop :=
  ∀ address bump, find seeds program = .ok (address, bump) →
    derive (seeds ++ [[bump]]) program = .ok address

/-- A bump may follow admissible seeds as long as there is room for one more. -/
theorem admissible_concat_iff (admissible : Admissible seeds) :
    Admissible (seeds ++ [[bump]]) ↔ seeds.length < 16 := by
  constructor
  · rintro ⟨few, _⟩
    rw [List.length_append, List.length_singleton] at few
    exact few
  · intro further
    refine ⟨?_, ?_⟩
    · rw [List.length_append, List.length_singleton]
      exact further
    · intro seed member
      rcases List.mem_append.mp member with given | last
      · exact admissible.short seed given
      · rw [List.mem_singleton.mp last, List.length_singleton]
        decide

/-- A found address is derived again if the bump is a seed that is still allowed. -/
theorem derive_concat_of_find (found : find seeds program = .ok (address, bump)) :
    derive (seeds ++ [[bump]]) program =
      if seeds.length < 16 then .ok address else .error (.tooManySeeds 17) := by
  obtain ⟨admissible, ⟨⟨_, offCurve⟩, _⟩, rfl⟩ := find_eq_ok_iff.mp found
  split
  case isTrue further =>
    exact derive_eq_ok_iff.mpr
      ⟨(admissible_concat_iff admissible).mpr further, hashSeeds_concat, offCurve⟩
  case isFalse full =>
    have count : (seeds ++ [[bump]]).length = 17 := by
      have few := admissible.few
      rw [List.length_append, List.length_singleton]
      omega
    rw [← count]
    exact derive_of_refused (.tooMany (by omega))

/-- **When found addresses are derived again.** Where an address is found, there must be fewer
seeds than the most that are allowed. -/
theorem recreates_iff : Recreates seeds program ↔
    ((∃ found, find seeds program = .ok found) → seeds.length < 16) := by
  constructor
  · rintro recreates ⟨⟨address, bump⟩, found⟩
    have again := recreates address bump found
    rw [derive_concat_of_find found] at again
    by_contra full
    rw [if_neg full] at again
    cases again
  · intro fewer address bump found
    rw [derive_concat_of_find found, if_pos (fewer ⟨_, found⟩)]

/-- As many seeds as are allowed, each of one byte. -/
def crowded : List (List UInt8) := .replicate 16 [255]

/-- The first bump that is tried gives a curve point, and the next one does not. -/
theorem find_crowded : find crowded .zero = .ok (candidate crowded .zero 254, 254) := by
  have tried : (candidate crowded .zero 255).isOnCurve = true ∧
      (candidate crowded .zero 254).isOnCurve = false := by
    decide +kernel
  refine find_eq_ok_iff.mpr ⟨⟨by decide, by decide⟩, ⟨⟨by decide, tried.2⟩, ?_⟩, rfl⟩
  rintro other ⟨_, offCurve⟩
  apply UInt8.not_lt.mp
  intro above
  have last : other = 255 := by
    have bounded := other.toNat_lt
    rw [UInt8.lt_iff_toNat_lt] at above
    apply UInt8.toNat_inj.mp
    simp only [UInt8.reduceToNat] at above ⊢
    omega
  rw [last, tried.1] at offCurve
  cases offCurve

/-- An address is found from the most seeds that are allowed, and it is not derived again: its bump
is one seed too many. -/
theorem not_recreates_crowded : find crowded .zero = .ok (candidate crowded .zero 254, 254) ∧
    derive (crowded ++ [[254]]) .zero = .error (.tooManySeeds 17) ∧ ¬ Recreates crowded .zero := by
  refine ⟨find_crowded, rfl, ?_⟩
  intro recreates
  have again := recreates _ _ find_crowded
  cases again

end LedgerClient.Address
