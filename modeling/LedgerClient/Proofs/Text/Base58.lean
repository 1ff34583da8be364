import LedgerClient.Text.Base58
import Mathlib.Data.List.GetD
import Mathlib.Data.List.TakeWhile

/-! # One spelling for each byte string

A text spells a byte string if both are the same number and as many ones stand in front of the
text as zero bytes in front of the bytes (`LedgerClient.Base58.Spells`). Digits in one base are
written in another by this rule (`LedgerClient.Base58.rebase_eq_iff`), which looks the same from
either side. So reading and writing both follow it (`LedgerClient.Base58.decode_eq_ok_iff`,
`LedgerClient.Base58.encode_eq_iff`).
-/

namespace LedgerClient.Base58

open Positional (value digits)

variable {source target : Nat} {ds es : List Nat} {text : String} {bytes : List UInt8}

/-! ### Zeros in front -/

/-- How many zeros stand in front. -/
def leadingZeros (ds : List Nat) : Nat := (ds.takeWhile (· == 0)).length

private theorem takeWhile_zero_eq (ds : List Nat) :
    ds.takeWhile (· == 0) = List.replicate (leadingZeros ds) 0 := by
  apply List.eq_replicate_iff.mpr
  refine ⟨rfl, fun digit member => ?_⟩
  simpa using List.mem_takeWhile_imp member

private theorem value_replicate_zero_append (base count : Nat) (ds : List Nat) :
    value base (List.replicate count 0 ++ ds) = value base ds := by
  induction count with
  | zero => rfl
  | succ count ih =>
      rw [List.replicate_succ, List.cons_append, Positional.value_cons, Nat.zero_mul, Nat.zero_add]
      exact ih

private theorem leadingZeros_replicate_append (count : Nat) (lead : ds.head? ≠ some 0) :
    leadingZeros (List.replicate count 0 ++ ds) = count := by
  have stops : ds.takeWhile (· == 0) = [] := by
    cases ds with
    | nil => rfl
    | cons digit rest =>
        rw [List.takeWhile_cons_of_neg]
        simpa using lead
  rw [leadingZeros, List.takeWhile_append_of_pos (by simp), stops, List.append_nil,
    List.length_replicate]

/-- Digits are their zeros in front and what does not begin with one. -/
theorem exists_eq_replicate_append (ds : List Nat) :
    ∃ rest, ds = List.replicate (leadingZeros ds) 0 ++ rest ∧ rest.head? ≠ some 0 := by
  refine ⟨ds.dropWhile (· == 0), ?_, ?_⟩
  · rw [← takeWhile_zero_eq, List.takeWhile_append_dropWhile]
  · intro zero
    have passed := List.head?_dropWhile_not (· == 0) ds
    rw [zero] at passed
    cases passed

/-- The digits of a number do not begin with zero. -/
theorem head?_digits_ne_zero {base : Nat} (base_ge : 2 ≤ base) (n : Nat) :
    (digits base n).head? ≠ some 0 := by
  induction n using Nat.strongRecOn with
  | ind n ih =>
      rcases Nat.eq_zero_or_pos n with rfl | positive
      · simp [digits, Positional.digitsOnto]
      · have split : digits base n = digits base (n / base) ++ [n % base] := by
          have small : n % base < base := Nat.mod_lt n (by omega)
          have again := Nat.div_add_mod' n base
          have step := Positional.digits_mul_add base_ge small (again ▸ positive)
          rwa [again] at step
        rw [split]
        cases front : digits base (n / base) with
        | nil =>
            -- A number of one digit is that digit.
            have high : n / base = 0 := by
              rw [← Positional.value_digits base_ge (n / base), front]
              rfl
            have same := Nat.div_add_mod' n base
            rw [high, Nat.zero_mul, Nat.zero_add] at same
            simp only [List.nil_append, List.head?_cons, ne_eq, Option.some.injEq]
            omega
        | cons digit rest =>
            have lead := ih (n / base) (Nat.div_lt_self positive base_ge)
            rwa [front] at lead

/-! ### The same number in two bases -/

/-- Digits in two bases are the same number, with as many zeros in front. -/
structure SameNumber (source target : Nat) (ds es : List Nat) : Prop where
  sourceDigits : ∀ digit ∈ ds, digit < source
  targetDigits : ∀ digit ∈ es, digit < target
  zeros : leadingZeros ds = leadingZeros es
  value : value source ds = value target es

/-- Being the same number in two bases is symmetric. -/
theorem SameNumber.symm (same : SameNumber source target ds es) :
    SameNumber target source es ds :=
  ⟨same.targetDigits, same.sourceDigits, same.zeros.symm, same.value.symm⟩

/-- **Writing digits in another base** gives the same number with as many zeros in front, and
nothing else has these digits. -/
theorem rebase_eq_iff (target_ge : 2 ≤ target) (below : ∀ digit ∈ ds, digit < source) :
    rebase source target ds = es ↔ SameNumber source target ds es := by
  have lead := head?_digits_ne_zero target_ge (value source ds)
  rw [rebase, takeWhile_zero_eq]
  constructor
  · intro written
    refine ⟨below, ?_, ?_, ?_⟩
    · intro digit member
      rw [← written] at member
      rcases List.mem_append.mp member with zero | high
      · rw [List.eq_of_mem_replicate zero]
        omega
      · exact Positional.lt_of_mem_digits target_ge high
    · rw [← written, leadingZeros_replicate_append _ lead]
    · rw [← written, value_replicate_zero_append, Positional.value_digits target_ge]
  · intro same
    obtain ⟨rest, split, restLead⟩ := exists_eq_replicate_append es
    have restBelow : ∀ digit ∈ rest, digit < target := by
      intro digit member
      apply same.targetDigits
      rw [split]
      exact List.mem_append_right _ member
    have restValue : value source ds = value target rest := by
      rw [same.value, split, value_replicate_zero_append]
    rw [restValue, Positional.digits_value target_ge restBelow restLead, same.zeros]
    exact split.symm

/-! ### Digits and characters -/

/-- The number of a character of the alphabet. -/
def digitOf (c : Char) : Nat := alphabet.idxOf c

private theorem length_alphabet : alphabet.length = 58 := by decide +kernel

private theorem nodup_alphabet : alphabet.Nodup := by decide +kernel

private theorem digitOf_lt {c : Char} (known : c ∈ alphabet) : digitOf c < 58 := by
  rw [← length_alphabet]
  exact List.idxOf_lt_length_of_mem known

/-- A character of the alphabet is the one of its digit. -/
theorem ofDigit_digitOf {c : Char} (known : c ∈ alphabet) : ofDigit (digitOf c) = c := by
  have inside := List.idxOf_lt_length_of_mem known
  rw [ofDigit, digitOf, List.getD_eq_getElem _ _ inside]
  exact List.getElem_idxOf inside

private theorem ofDigit_mem {digit : Nat} (small : digit < 58) : ofDigit digit ∈ alphabet := by
  rw [← length_alphabet] at small
  rw [ofDigit, List.getD_eq_getElem _ _ small]
  exact List.getElem_mem small

/-- A digit is the one of its character. -/
theorem digitOf_ofDigit {digit : Nat} (small : digit < 58) : digitOf (ofDigit digit) = digit := by
  rw [← length_alphabet] at small
  rw [ofDigit, List.getD_eq_getElem _ _ small]
  exact nodup_alphabet.idxOf_getElem digit small

private theorem toNat_lt_of_mem {c : Char} (known : c ∈ alphabet) : c.toNat < 128 := by
  have ascii : (alphabet.all fun c => decide (c.toNat < 128)) = true := rfl
  exact of_decide_eq_true (List.all_eq_true.mp ascii c known)

/-- The digit zero is written as a one. -/
theorem digitOf_eq_zero_iff {c : Char} (known : c ∈ alphabet) : digitOf c = 0 ↔ c = '1' := by
  constructor
  · intro zero
    rw [← ofDigit_digitOf known, zero]
    decide +kernel
  · intro one
    rw [one]
    decide +kernel

private theorem map_ofDigit_digitOf {cs : List Char} (known : ∀ c ∈ cs, c ∈ alphabet) :
    (cs.map digitOf).map ofDigit = cs := by
  rw [List.map_map]
  exact (List.map_congr_left fun c member => ofDigit_digitOf (known c member)).trans
    (List.map_id cs)

/-- Reading characters gives their numbers, if all of them have one. -/
theorem digitsFrom_eq_ok_iff {index : Nat} {found : List Nat} {cs : List Char} :
    digitsFrom index found cs = .ok ds ↔
      (∀ c ∈ cs, c ∈ alphabet) ∧ found.reverse ++ cs.map digitOf = ds := by
  induction cs generalizing index found with
  | nil => simp [digitsFrom]
  | cons c rest ih =>
      rw [List.forall_mem_cons, digitsFrom]
      by_cases known : c ∈ alphabet
      · have place : alphabet.idxOf? c = some (digitOf c) := by
          obtain ⟨digit, listed⟩ := Option.isSome_iff_exists.mp (List.isSome_idxOf?.mpr known)
          obtain ⟨inside, same, _⟩ := List.idxOf?_eq_some_iff.mp listed
          rw [listed, ← same, digitOf, nodup_alphabet.idxOf_getElem digit inside]
        rw [if_neg (Nat.not_le.mpr (toNat_lt_of_mem known)), place]
        simp [ih, known]
      · have nowhere : alphabet.idxOf? c = none := List.idxOf?_eq_none_iff.mpr known
        rw [nowhere]
        split <;> simp [known]

/-! ### Texts and bytes -/

/-- **A text spells a byte string.** All its characters are digits, there is one `1` in front of
it for each zero byte in front, and both are the same number, most significant digit first. -/
structure Spells (text : String) (bytes : List UInt8) : Prop where
  alphabetic : ∀ c ∈ text.toList, c ∈ alphabet
  zeros : (text.toList.takeWhile (· == '1')).length = (bytes.takeWhile (· == 0)).length
  value : value 58 (text.toList.map digitOf) = value 256 (bytes.map UInt8.toNat)

private theorem leadingZeros_map_digitOf {cs : List Char} (known : ∀ c ∈ cs, c ∈ alphabet) :
    leadingZeros (cs.map digitOf) = (cs.takeWhile (· == '1')).length := by
  rw [leadingZeros, List.takeWhile_map, List.length_map]
  congr 1
  induction cs with
  | nil => rfl
  | cons c rest ih =>
      obtain ⟨first, others⟩ := List.forall_mem_cons.mp known
      have same : (digitOf c == 0) = (c == '1') := by
        rw [Bool.eq_iff_iff, beq_iff_eq, beq_iff_eq]
        exact digitOf_eq_zero_iff first
      rw [List.takeWhile_cons, List.takeWhile_cons, Function.comp_apply, same, ih others]

private theorem leadingZeros_map_toNat (bytes : List UInt8) :
    leadingZeros (bytes.map UInt8.toNat) = (bytes.takeWhile (· == 0)).length := by
  have same : ((· == 0) ∘ UInt8.toNat) = (· == (0 : UInt8)) := by
    funext byte
    rw [Function.comp_apply, Bool.eq_iff_iff, beq_iff_eq, beq_iff_eq]
    exact UInt8.toNat_inj (b := 0)
  rw [leadingZeros, List.takeWhile_map, List.length_map, same]

private theorem toNat_lt_of_mem_map {digit : Nat} (member : digit ∈ bytes.map UInt8.toNat) :
    digit < 256 := by
  obtain ⟨byte, _, rfl⟩ := List.mem_map.mp member
  exact byte.toNat_lt

/-- A text spells bytes if both are the same number with as many leading zeros. -/
theorem spells_iff : Spells text bytes ↔ (∀ c ∈ text.toList, c ∈ alphabet) ∧
    SameNumber 58 256 (text.toList.map digitOf) (bytes.map UInt8.toNat) := by
  constructor
  · intro spells
    refine ⟨spells.alphabetic, ?_, fun _ => toNat_lt_of_mem_map, ?_, spells.value⟩
    · intro digit member
      obtain ⟨c, present, rfl⟩ := List.mem_map.mp member
      exact digitOf_lt (spells.alphabetic c present)
    · rw [leadingZeros_map_digitOf spells.alphabetic, leadingZeros_map_toNat]
      exact spells.zeros
  · intro ⟨known, same⟩
    have zeros := same.zeros
    rw [leadingZeros_map_digitOf known, leadingZeros_map_toNat] at zeros
    exact ⟨known, zeros, same.value⟩

private theorem map_ofNat_eq_iff {ds : List Nat} (below : ∀ digit ∈ ds, digit < 256) :
    ds.map UInt8.ofNat = bytes ↔ ds = bytes.map UInt8.toNat := by
  constructor
  · intro same
    rw [← same, List.map_map]
    refine ((List.map_congr_left fun digit member => ?_).trans (List.map_id ds)).symm
    exact UInt8.toNat_ofNat_of_lt (below digit member)
  · intro same
    rw [same, List.map_map]
    exact (List.map_congr_left fun byte _ => UInt8.ofNat_toNat).trans (List.map_id bytes)

/-- **Reading** gives the byte string that a text spells. -/
theorem decode_eq_ok_iff : decode text = .ok bytes ↔ Spells text bytes := by
  have reads : decode text = .ok bytes ↔ ∃ ds, digitsFrom 0 [] text.toList = .ok ds ∧
      (rebase 58 256 ds).map UInt8.ofNat = bytes := by
    rw [decode]
    cases digitsFrom 0 [] text.toList with
    | error fault => simp [bind, Except.bind]
    | ok ds => simp [bind, Except.bind, pure, Except.pure]
  rw [reads, spells_iff]
  simp only [digitsFrom_eq_ok_iff, List.reverse_nil, List.nil_append]
  constructor
  · intro ⟨ds, ⟨known, same⟩, written⟩
    subst same
    have below : ∀ digit ∈ text.toList.map digitOf, digit < 58 := by
      intro digit member
      obtain ⟨c, present, rfl⟩ := List.mem_map.mp member
      exact digitOf_lt (known c present)
    have number : SameNumber 58 256 _ _ := (rebase_eq_iff (by decide) below).mp rfl
    rw [map_ofNat_eq_iff number.targetDigits] at written
    rw [← written]
    exact ⟨known, number⟩
  · intro ⟨known, number⟩
    refine ⟨_, ⟨known, rfl⟩, ?_⟩
    rw [(rebase_eq_iff (by decide) number.sourceDigits).mpr number]
    exact (map_ofNat_eq_iff number.targetDigits).mpr rfl

/-- **Writing** gives the text that spells a byte string. -/
theorem encode_eq_iff : encode bytes = text ↔ Spells text bytes := by
  have below : ∀ digit ∈ bytes.map UInt8.toNat, digit < 256 := fun _ => toNat_lt_of_mem_map
  have number : SameNumber 256 58 _ _ := (rebase_eq_iff (by decide) below).mp rfl
  have known : ∀ c ∈ (rebase 256 58 (bytes.map UInt8.toNat)).map ofDigit, c ∈ alphabet := by
    intro c member
    obtain ⟨digit, present, rfl⟩ := List.mem_map.mp member
    exact ofDigit_mem (number.targetDigits digit present)
  have again : ((rebase 256 58 (bytes.map UInt8.toNat)).map ofDigit).map digitOf =
      rebase 256 58 (bytes.map UInt8.toNat) := by
    rw [List.map_map]
    refine (List.map_congr_left fun digit member => ?_).trans (List.map_id _)
    exact digitOf_ofDigit (number.targetDigits digit member)
  rw [spells_iff]
  constructor
  · intro written
    rw [← written, encode, String.toList_ofList, again]
    exact ⟨known, number.symm⟩
  · intro ⟨alphabetic, same⟩
    rw [encode, (rebase_eq_iff (by decide) below).mpr same.symm, map_ofDigit_digitOf alphabetic]
    exact String.ofList_toList

/-- **What is encoded is decoded.** -/
theorem decode_encode (bytes : List UInt8) : decode (encode bytes) = .ok bytes :=
  decode_eq_ok_iff.mpr (encode_eq_iff.mp rfl)

/-- **A text that is decoded is the encoding of what it gives.** -/
theorem encode_of_decode (read : decode text = .ok bytes) : encode bytes = text :=
  encode_eq_iff.mpr (decode_eq_ok_iff.mp read)

end LedgerClient.Base58
