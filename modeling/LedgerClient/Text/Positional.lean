/-! # Numbers as digits in a base

Most significant digit first. A number is the value of its digits
(`Positional.value_digits`), and digits that do not begin with a zero are the
digits of their value (`Positional.digits_value`).
-/

namespace LedgerClient.Positional

-- Powers are those of plain numbers, also where numbers are known to be a monoid.
attribute [instance (2000), default_instance (20000)] instPowNat

/-- The number that digits spell in a base. -/
def value (base : Nat) (digits : List Nat) : Nat :=
  digits.foldl (fun total digit => total * base + digit) 0

/-- The digits of `n`, put in front of digits already found. -/
def digitsOnto (base n : Nat) (found : List Nat) : List Nat :=
  if _done : n = 0 ∨ base < 2 then found
  else digitsOnto base (n / base) (n % base :: found)
termination_by n
decreasing_by exact Nat.div_lt_self (by omega) (by omega)

/-- The digits of a number; zero has none. -/
def digits (base n : Nat) : List Nat := digitsOnto base n []

theorem value_append (base : Nat) (high low : List Nat) :
    value base (high ++ low) = value base high * base ^ low.length + value base low := by
  have shift : ∀ (start : Nat) (ds : List Nat),
      ds.foldl (fun total digit => total * base + digit) start =
        start * base ^ ds.length + value base ds := by
    intro start ds
    induction ds generalizing start with
    | nil => simp [value]
    | cons digit ds ih =>
      simp only [value, List.foldl_cons, List.length_cons]
      rw [ih, ih (0 * base + digit), Nat.pow_succ, Nat.zero_mul, Nat.zero_add, Nat.add_mul,
        Nat.mul_assoc, Nat.mul_comm base, Nat.add_assoc]
  rw [value, List.foldl_append, shift]
  rfl

theorem value_cons (base digit : Nat) (ds : List Nat) :
    value base (digit :: ds) = digit * base ^ ds.length + value base ds := by
  simpa [value] using value_append base [digit] ds

theorem value_digitsOnto {base : Nat} (base_ge : 2 ≤ base) (n : Nat) (found : List Nat) :
    value base (digitsOnto base n found) = n * base ^ found.length + value base found := by
  fun_induction digitsOnto base n found with
  | case1 n found h =>
    have n_zero : n = 0 := by omega
    simp [n_zero]
  | case2 n found h ih =>
    rw [ih, value_cons, List.length_cons, Nat.pow_succ, ← Nat.add_assoc, Nat.mul_comm (base ^ _),
      ← Nat.mul_assoc, ← Nat.add_mul, Nat.div_add_mod']

/-- A number is the value of its digits. -/
theorem value_digits {base : Nat} (base_ge : 2 ≤ base) (n : Nat) :
    value base (digits base n) = n := by
  have onto := value_digitsOnto base_ge n []
  simpa [digits, value] using onto

theorem mem_digitsOnto_lt {base : Nat} (base_ge : 2 ≤ base) (n : Nat) (found : List Nat)
    (below : ∀ digit ∈ found, digit < base) : ∀ digit ∈ digitsOnto base n found, digit < base := by
  fun_induction digitsOnto base n found with
  | case1 n found h => exact below
  | case2 n found h ih =>
    apply ih
    intro digit member
    rcases List.mem_cons.1 member with rfl | old
    · exact Nat.mod_lt _ (by omega)
    · exact below digit old

/-- Every digit is below the base. -/
theorem lt_of_mem_digits {base : Nat} (base_ge : 2 ≤ base) {n digit : Nat}
    (member : digit ∈ digits base n) : digit < base :=
  mem_digitsOnto_lt base_ge n [] (by simp) digit member

theorem value_lt {base : Nat} {ds : List Nat} (below : ∀ digit ∈ ds, digit < base) :
    value base ds < base ^ ds.length := by
  induction ds with
  | nil => simp [value]
  | cons digit ds ih =>
    have small := below digit (by simp)
    have rest := ih fun d member => below d (by simp [member])
    rw [value_cons, List.length_cons, Nat.pow_succ, Nat.mul_comm (base ^ _)]
    have grown : (digit + 1) * base ^ ds.length ≤ base * base ^ ds.length :=
      Nat.mul_le_mul_right _ small
    rw [Nat.add_mul, Nat.one_mul] at grown
    omega

theorem digitsOnto_eq (base : Nat) (found : List Nat) (n : Nat) :
    digitsOnto base n found = digits base n ++ found := by
  have onto : ∀ first second : List Nat,
      digitsOnto base n (first ++ second) = digitsOnto base n first ++ second := by
    intro first second
    fun_induction digitsOnto base n first with
    | case1 n first h => rw [digitsOnto, dif_pos h]
    | case2 n first h ih => rw [digitsOnto, dif_neg h, ← List.cons_append, ih]
  simpa [digits] using onto [] found

theorem digits_mul_add {base : Nat} (base_ge : 2 ≤ base) {n digit : Nat} (small : digit < base)
    (positive : 0 < n * base + digit) :
    digits base (n * base + digit) = digits base n ++ [digit] := by
  have quotient : (n * base + digit) / base = n := by
    rw [Nat.mul_comm, Nat.mul_add_div (by omega), Nat.div_eq_of_lt small, Nat.add_zero]
  have remainder : (n * base + digit) % base = digit := by
    rw [Nat.mul_comm, Nat.mul_add_mod, Nat.mod_eq_of_lt small]
  rw [digits, digitsOnto, dif_neg (by omega), quotient, remainder, digitsOnto_eq]

/-- Digits that do not begin with a zero are the digits of their value. -/
theorem digits_value {base : Nat} (base_ge : 2 ≤ base) {ds : List Nat}
    (below : ∀ digit ∈ ds, digit < base) (lead : ds.head? ≠ some 0) :
    digits base (value base ds) = ds := by
  induction size : ds.length generalizing ds with
  | zero =>
    cases List.eq_nil_of_length_eq_zero size
    simp [value, digits, digitsOnto]
  | succ length ih =>
    obtain empty | ⟨front, digit, rfl⟩ := List.eq_nil_or_concat ds
    · simp [empty] at size
    · rw [List.concat_eq_append] at below lead size ⊢
      have small := below digit (by simp)
      have step : value base (front ++ [digit]) = value base front * base + digit := by
        rw [value_append]
        simp [value]
      rw [step]
      cases front with
      | nil =>
        have nonzero : digit ≠ 0 := by simpa using lead
        rw [digits_mul_add base_ge small (by omega)]
        simp [value, digits, digitsOnto]
      | cons first rest =>
        have kept : digits base (value base (first :: rest)) = first :: rest :=
          ih (fun d member => below d (List.mem_append_left _ member)) (by simpa using lead)
            (by simpa using size)
        have positive : 0 < value base (first :: rest) := by
          apply Nat.pos_of_ne_zero
          intro zero
          rw [zero] at kept
          simp [digits, digitsOnto] at kept
        have grown : 0 < value base (first :: rest) * base := Nat.mul_pos positive (by omega)
        rw [digits_mul_add base_ge small (by omega), kept]

end LedgerClient.Positional
