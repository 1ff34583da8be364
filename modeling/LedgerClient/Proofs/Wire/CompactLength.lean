import LedgerClient.Proofs.Wire.Reader
import LedgerClient.Wire.CompactLength

/-! # Compact lengths are read back

Reading a compact length takes the shortest form of the length and no other
(`LedgerClient.CompactLength.reads_read`).
-/

namespace LedgerClient.CompactLength

open Reader Cursor

variable {start reached : Cursor}

/-- A number below 128 takes one byte. -/
theorem encodeWithin_small {steps n : Nat} (small : n < 128) :
    encodeWithin steps n = [UInt8.ofNat n] := by
  cases steps with
  | zero => rfl
  | succ steps => rw [encodeWithin, if_pos small]

/-- A larger number takes its low seven bits first. -/
theorem encodeWithin_large {steps n : Nat} (large : 128 ≤ n) :
    encodeWithin (steps + 1) n = [UInt8.ofNat (n % 128 + 128)] ++ encodeWithin steps (n / 128) := by
  rw [encodeWithin, if_neg (Nat.not_lt.mpr large)]
  rfl

/-- One byte either ends a length or adds its seven bits to what is read so far. -/
private theorem readWithin_succ_eq_ok_iff {steps total place : Nat} {value : UInt16} :
    readWithin total place (steps + 1) start = .ok value reached ↔
      ∃ next middle, start.Takes [next] middle ∧ ¬ (0 < place ∧ next = 0) ∧
        ((next.toNat < 128 ∧ total + next.toNat * 128 ^ place = value.toNat ∧ reached = middle) ∨
          (128 ≤ next.toNat ∧ readWithin (total + next.toNat % 128 * 128 ^ place) (place + 1) steps
            middle = .ok value reached)) := by
  have ends (next : UInt8) (middle : Cursor) (small : next.toNat < 128) :
      (if total + next.toNat % 128 * 128 ^ place ≤ maxValue then
        pure (UInt16.ofNat (total + next.toNat % 128 * 128 ^ place))
        else throw .malformedLength : Reader UInt16) middle = .ok value reached ↔
      total + next.toNat * 128 ^ place = value.toNat ∧ reached = middle := by
    have bound := value.toNat_lt
    rw [Nat.mod_eq_of_lt small]
    split
    case isTrue fits =>
      have exact : (UInt16.ofNat (total + next.toNat * 128 ^ place)).toNat =
          total + next.toNat * 128 ^ place := UInt16.toNat_ofNat_of_lt' (Nat.lt_succ_of_le fits)
      rw [pure_eq_ok_iff, ← UInt16.toNat_inj, exact, eq_comm]
    case isFalse large =>
      simp only [throw_ne_ok, false_iff, not_and]
      intro same
      unfold maxValue at large
      omega
  simp only [readWithin, bind_eq_ok_iff, reads_byte _ _ _, refuse_eq_ok_iff]
  constructor
  · rintro ⟨next, middle, ⟨_, rfl, taken⟩, fresh, rest⟩
    refine ⟨next, middle, taken, fresh, ?_⟩
    by_cases small : next.toNat < 128
    · rw [if_pos small, ends next middle small] at rest
      exact .inl ⟨small, rest⟩
    · rw [if_neg small] at rest
      exact .inr ⟨Nat.not_lt.mp small, rest⟩
  · rintro ⟨next, middle, taken, fresh, ⟨small, rest⟩ | ⟨large, rest⟩⟩
    · refine ⟨next, middle, ⟨_, rfl, taken⟩, fresh, ?_⟩
      rw [if_pos small]
      exact (ends next middle small).mpr rest
    · refine ⟨next, middle, ⟨_, rfl, taken⟩, fresh, ?_⟩
      rw [if_neg (Nat.not_lt.mpr large)]
      exact rest

/-- What remains to be read of a length is the number that the further bytes give.
Behind the first byte it is not zero, as the shortest form would have ended before. -/
private theorem readWithin_eq_ok_iff {steps total place : Nat} {value : UInt16} {start : Cursor}
    (some : 0 < place ∨ 0 < steps) :
    readWithin total place steps start = .ok value reached ↔
      ∃ n, n < 128 ^ steps ∧ (0 < place → 0 < n) ∧ total + n * 128 ^ place = value.toNat ∧
        start.Takes (encodeWithin (steps - 1) n) reached := by
  induction steps generalizing total place start with
  | zero =>
      simp only [readWithin, throw_ne_ok, false_iff]
      rintro ⟨n, bound, positive, _⟩
      have := positive (some.resolve_right (Nat.lt_irrefl 0))
      rw [Nat.pow_zero] at bound
      omega
  | succ steps ih =>
      rw [readWithin_succ_eq_ok_iff, Nat.add_sub_cancel]
      have shift (n : Nat) : n * 128 ^ (place + 1) = 128 * n * 128 ^ place := by
        rw [Nat.pow_succ, Nat.mul_comm (128 ^ place), ← Nat.mul_assoc, Nat.mul_comm n]
      constructor
      · rintro ⟨next, middle, taken, fresh, ⟨small, sum, rfl⟩ | ⟨large, rest⟩⟩
        · refine ⟨next.toNat, ?_, ?_, sum, ?_⟩
          · exact Nat.lt_of_lt_of_le small (Nat.le_self_pow (Nat.succ_ne_zero steps) 128)
          · intro behind
            refine Nat.pos_of_ne_zero fun zero => fresh ⟨behind, ?_⟩
            exact UInt8.toNat_inj.mp zero
          · rwa [encodeWithin_small small, UInt8.ofNat_toNat]
        · obtain ⟨n, bound, positive, sum, after⟩ := (ih (.inl (Nat.succ_pos place))).mp rest
          have byte := next.toNat_lt
          have more := positive (Nat.succ_pos place)
          have low : (next.toNat % 128 + 128 * n) % 128 = next.toNat % 128 := by omega
          have high : (next.toNat % 128 + 128 * n) / 128 = n := by omega
          refine ⟨next.toNat % 128 + 128 * n, ?_, ?_, ?_, ?_⟩
          · rw [Nat.pow_succ]
            omega
          · omega
          · rw [← sum, shift, Nat.add_mul, Nat.add_assoc]
          · cases steps with
            | zero =>
                rw [Nat.pow_zero] at bound
                omega
            | succ steps =>
                rw [encodeWithin_large (by omega), low, high,
                  show next.toNat % 128 + 128 = next.toNat by omega, UInt8.ofNat_toNat]
                exact taken.append after
      · rintro ⟨n, bound, positive, sum, taken⟩
        by_cases small : n < 128
        · have same : (UInt8.ofNat n).toNat = n :=
            UInt8.toNat_ofNat_of_lt' (Nat.lt_trans small (by decide))
          rw [encodeWithin_small small] at taken
          refine ⟨UInt8.ofNat n, reached, taken, ?_, .inl ⟨?_, ?_, rfl⟩⟩
          · rintro ⟨behind, zero⟩
            rw [zero] at same
            exact Nat.ne_of_lt (positive behind) same
          · rwa [same]
          · rwa [same]
        · cases steps with
          | zero => exact (small bound).elim
          | succ steps =>
              have same : (UInt8.ofNat (n % 128 + 128)).toNat = n % 128 + 128 :=
                UInt8.toNat_ofNat_of_lt' (show n % 128 + 128 < 256 by omega)
              rw [encodeWithin_large (Nat.not_lt.mp small), takes_append_iff] at taken
              obtain ⟨middle, taken, after⟩ := taken
              refine ⟨_, middle, taken, ?_, .inr ⟨?_, ?_⟩⟩
              · rintro ⟨_, zero⟩
                rw [zero] at same
                have : (0 : UInt8).toNat = 0 := rfl
                omega
              · omega
              · refine (ih (.inl (Nat.succ_pos place))).mpr ⟨n / 128, ?_, ?_, ?_, after⟩
                · rw [Nat.pow_succ] at bound
                  omega
                · omega
                · rw [same, ← sum, shift, Nat.add_mod_right, Nat.mod_mod, Nat.add_assoc,
                    ← Nat.add_mul, Nat.mod_add_div]

/-- **Reading a length** takes its shortest form. -/
theorem reads_read : read.Reads fun value bytes => bytes = encode value := by
  intro start value reached
  rw [read, readWithin_eq_ok_iff (.inr (by decide))]
  have bound := value.toNat_lt
  constructor
  · rintro ⟨n, _, _, same, taken⟩
    rw [Nat.pow_zero, Nat.mul_one, Nat.zero_add] at same
    subst same
    exact ⟨_, rfl, taken⟩
  · rintro ⟨_, rfl, taken⟩
    refine ⟨value.toNat, ?_, fun behind => (Nat.lt_irrefl 0 behind).elim, ?_, taken⟩
    · exact Nat.lt_trans bound (by decide)
    · rw [Nat.pow_zero, Nat.mul_one, Nat.zero_add]

/-- A length is spelled if it is not above the greatest one. -/
theorem encode?_eq_ok_iff {length : Nat} {bytes : List UInt8} :
    encode? length = .ok bytes ↔ length ≤ maxValue ∧ bytes = encode (UInt16.ofNat length) := by
  unfold encode?
  split
  case isTrue fits =>
    constructor
    · intro same
      cases same
      exact ⟨fits, rfl⟩
    · rintro ⟨_, rfl⟩
      rfl
  case isFalse large =>
    refine iff_of_false Outcome.throw_ne_ok ?_
    rintro ⟨fits, _⟩
    exact large fits

/-- A length takes a byte at least. -/
theorem length_pos_of_encode? {length : Nat} {bytes : List UInt8}
    (written : encode? length = .ok bytes) : 0 < bytes.length := by
  obtain ⟨_, rfl⟩ := encode?_eq_ok_iff.mp written
  rw [encode, maxBytes, encodeWithin]
  split
  · exact Nat.zero_lt_one
  · exact Nat.succ_pos _

/-- A count is read where so many elements can be left behind it. -/
theorem readCount_eq_ok_iff {what : String} {elementSize count : Nat} :
    readCount what elementSize start = .ok count reached ↔
      (∃ bytes, encode? count = .ok bytes ∧ start.Takes bytes reached) ∧
        count * elementSize ≤ reached.rest.length := by
  simp only [readCount, bind_eq_ok_iff, refuse_eq_ok_iff, pure_eq_ok_iff, remaining_eq_ok_iff,
    reads_read _ _ _]
  constructor
  · rintro ⟨value, _, ⟨_, rfl, taken⟩, _, _, ⟨rfl, rfl⟩, enough, rfl, rfl⟩
    refine ⟨⟨_, encode?_eq_ok_iff.mpr ⟨Nat.le_of_lt_succ value.toNat_lt, rfl⟩, ?_⟩,
      Nat.not_lt.mp enough⟩
    rwa [UInt16.ofNat_toNat]
  · rintro ⟨⟨bytes, written, taken⟩, enough⟩
    obtain ⟨fits, rfl⟩ := encode?_eq_ok_iff.mp written
    have same : (UInt16.ofNat count).toNat = count :=
      UInt16.toNat_ofNat_of_lt' (Nat.lt_succ_of_le fits)
    refine ⟨_, reached, ⟨_, rfl, taken⟩, _, _, ⟨rfl, rfl⟩, ?_, same.symm, rfl⟩
    rw [same]
    exact Nat.not_lt.mpr enough

section Counted

variable {α β : Type} {what : String} {elementSize : Nat} {elements : Nat → Reader (List α)}
  {spells : List α → List UInt8 → Prop}

/-- **A list behind its length** is read, whatever follows: its elements take the
bytes that the length is checked against. -/
theorem readCount_bind_of_takes
    (reads : ∀ count, (elements count).Reads fun values bytes =>
      values.length = count ∧ spells values bytes)
    (size : ∀ values bytes, spells values bytes → values.length * elementSize ≤ bytes.length)
    (next : Nat → List α → Reader β) {middle : Cursor} {values : List α} {length bytes : List UInt8}
    (counted : encode? values.length = .ok length) (spelled : spells values bytes)
    (taken : start.Takes (length ++ bytes) middle) :
    (readCount what elementSize >>= fun count => elements count >>= next count) start =
      next values.length values middle := by
  obtain ⟨front, takenLength, takenBytes⟩ := takes_append_iff.mp taken
  have enough : values.length * elementSize ≤ front.rest.length := by
    rw [takenBytes.length_rest]
    exact Nat.le_add_right_of_le (size _ _ spelled)
  rw [bind_of_ok (readCount_eq_ok_iff.mpr ⟨⟨length, counted, takenLength⟩, enough⟩),
    bind_of_ok ((reads _ _ _ _).mpr ⟨bytes, ⟨rfl, spelled⟩, takenBytes⟩)]

/-- What is read behind its length is a list with that length in front. -/
theorem readCount_bind_eq_ok_iff
    (reads : ∀ count, (elements count).Reads fun values bytes =>
      values.length = count ∧ spells values bytes)
    (size : ∀ values bytes, spells values bytes → values.length * elementSize ≤ bytes.length)
    (next : Nat → List α → Reader β) {value : β} :
    (readCount what elementSize >>= fun count => elements count >>= next count) start =
        .ok value reached ↔
      ∃ values middle, (∃ length bytes, encode? values.length = .ok length ∧
        spells values bytes ∧ start.Takes (length ++ bytes) middle) ∧
          next values.length values middle = .ok value reached := by
  constructor
  · intro whole
    obtain ⟨count, front, counted, rest⟩ := bind_eq_ok_iff.mp whole
    obtain ⟨values, middle, found, rest⟩ := bind_eq_ok_iff.mp rest
    obtain ⟨⟨length, written, takenLength⟩, _⟩ := readCount_eq_ok_iff.mp counted
    obtain ⟨bytes, ⟨rfl, spelled⟩, takenBytes⟩ := (reads _ _ _ _).mp found
    exact ⟨values, middle, ⟨length, bytes, written, spelled, takenLength.append takenBytes⟩, rest⟩
  · rintro ⟨values, middle, ⟨length, bytes, written, spelled, taken⟩, rest⟩
    rw [readCount_bind_of_takes reads size next written spelled taken]
    exact rest

end Counted

end LedgerClient.CompactLength
