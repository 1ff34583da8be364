import LedgerClient.Proofs.Wire.Guarded

/-! # Which bytes are a length

Decoding a length looks at the front of some bytes. It accepts the shortest form of a number and
no other bytes; where the bytes are the beginning of such a form they are found to be cut off, and
in all other cases to be malformed (`LedgerClient.CompactLength.settled_decode`). So a length has
one accepted spelling, which is known from any bytes that begin with it.
-/

namespace LedgerClient

open Cursor

variable {start short full reached : Cursor} {bytes rest : List UInt8}

namespace Reader

/-- No byte is taken where there is none. -/
theorem byte_of_nil (nothing : start.rest = []) :
    byte start = .error (.truncatedInput 1 0) start := by
  have few := ((looks_number 1).map UInt8.ofNat).short start
  rw [nothing] at few
  exact few Nat.zero_lt_one

private theorem byte_of_cons {next : UInt8} (split : start.rest = next :: rest) :
    byte start = .ok next (start.advance 1) := by
  have front : [next] <+: start.rest := split ▸ List.prefix_append [next] rest
  exact (reads_byte _ _ _).mpr ⟨[next], rfl, takes_advance front⟩

end Reader

namespace CompactLength

open Reader

variable {total place steps needed left : Nat} {next : UInt8} {value : UInt16}
  {fault : LedgerError}

/-! ### One byte after the other -/

/-- A length that is cut off lacks one byte. -/
theorem readWithin_of_nil (nothing : start.rest = []) :
    readWithin total place (steps + 1) start = .error (.truncatedInput 1 0) start := by
  rw [readWithin, bind_of_error (byte_of_nil nothing)]

/-- What the next byte of a length leads to: it pads the length, ends it, or asks for more. -/
theorem readWithin_of_cons (split : start.rest = next :: rest) :
    readWithin total place (steps + 1) start =
      if 0 < place ∧ next = 0 then .error .malformedLength (start.advance 1)
      else if next.toNat < 128 then
        if total + next.toNat % 128 * 128 ^ place ≤ maxValue then
          .ok (UInt16.ofNat (total + next.toNat % 128 * 128 ^ place)) (start.advance 1)
        else .error .malformedLength (start.advance 1)
      else readWithin (total + next.toNat % 128 * 128 ^ place) (place + 1) steps
        (start.advance 1) := by
  rw [readWithin, bind_of_ok (byte_of_cons split)]
  split
  case isTrue => rfl
  case isFalse =>
    split
    case isTrue =>
      change (if total + next.toNat % 128 * 128 ^ place ≤ maxValue then pure _ else throw _ :
        Reader UInt16) (start.advance 1) = _
      split <;> rfl
    case isFalse => rfl

/-- A length goes wrong for want of a byte or in its form. -/
theorem fault_of_readWithin (failed : readWithin total place steps start = .error fault reached) :
    fault = .truncatedInput 1 0 ∨ fault = .malformedLength := by
  induction steps generalizing total place start with
  | zero =>
      cases failed
      exact .inr rfl
  | succ steps ih =>
      cases split : start.rest with
      | nil =>
          rw [readWithin_of_nil split] at failed
          cases failed
          exact .inl rfl
      | cons next rest =>
          rw [readWithin_of_cons split] at failed
          split at failed
          case isTrue =>
            cases failed
            exact .inr rfl
          case isFalse =>
            split at failed
            case isFalse => exact ih failed
            case isTrue =>
              split at failed
              case isTrue => cases failed
              case isFalse =>
                cases failed
                exact .inr rfl

/-- **A length that breaks off can be ended** by the byte 1: the bytes before it all ask for more,
and what they give leaves room for it. -/
theorem readWithin_of_truncated (lacks : short.Lacks full [1]) (small : total < 128 ^ place)
    (room : place + steps ≤ maxBytes)
    (failed : readWithin total place steps short = .error (.truncatedInput needed left) reached) :
    ∃ value ended, readWithin total place steps full = .ok value ended ∧ ended.rest = [] := by
  induction steps generalizing total place short full with
  | zero => cases failed
  | succ steps ih =>
      have split := lacks.1
      cases begun : short.rest with
      | nil =>
          rw [begun, List.nil_append] at split
          have power : 128 ^ place ≤ 128 ^ 2 :=
            Nat.pow_le_pow_right (by decide) (by unfold maxBytes at room; omega)
          have fits : total + (1 : UInt8).toNat % 128 * 128 ^ place ≤ maxValue := by
            change total + 1 % 128 * 128 ^ place ≤ 65535
            omega
          have padsNot : ¬ (0 < place ∧ (1 : UInt8) = 0) := fun padding => by cases padding.2
          have ends := @readWithin_of_cons full [] total place steps 1 split
          rw [if_neg padsNot, if_pos (by decide), if_pos fits] at ends
          refine ⟨_, _, ends, ?_⟩
          change full.rest.drop 1 = []
          rw [split]
          rfl
      | cons next rest =>
          rw [begun, List.cons_append] at split
          rw [readWithin_of_cons begun] at failed
          rw [readWithin_of_cons split]
          split at failed
          case isTrue => cases failed
          case isFalse fresh =>
            rw [if_neg fresh]
            split at failed
            case isTrue => split at failed <;> cases failed
            case isFalse more =>
              rw [if_neg more]
              refine ih (lacks.advance ?_) ?_ ?_ failed
              · rw [begun]
                exact Nat.succ_pos _
              · rw [Nat.pow_succ]
                have low : next.toNat % 128 ≤ 127 := Nat.le_of_lt_succ (Nat.mod_lt _ (by decide))
                have grown := Nat.mul_le_mul_right (128 ^ place) low
                omega
              · omega

/-! ### The front of some bytes -/

/-- Bytes that are the beginning of a length, which goes on behind them. -/
def IsCutOff (bytes : List UInt8) : Prop :=
  ∃ value missing, missing ≠ [] ∧ encode value = bytes ++ missing

/-- A length is decoded exactly from bytes that begin with its spelling. -/
theorem decode_eq_ok_iff {count : Nat} : decode bytes = .ok (value, count) ↔
    count ≤ bytes.length ∧ bytes.take count = encode value := by
  have reads : decode bytes = .ok (value, count) ↔
      ∃ reached, read (ofList bytes) = .ok value reached ∧ reached.position = count := by
    unfold decode
    cases read (ofList bytes) with
    | ok found place =>
        constructor
        · intro same
          cases same
          exact ⟨place, rfl, rfl⟩
        · rintro ⟨_, same, rfl⟩
          cases same
          rfl
    | error fault place =>
        refine iff_of_false (fun impossible => by cases impossible) ?_
        rintro ⟨_, impossible, _⟩
        cases impossible
  rw [reads]
  constructor
  · rintro ⟨reached, found, rfl⟩
    obtain ⟨_, rfl, split, position⟩ := (reads_read _ _ _).mp found
    change bytes = encode value ++ reached.rest at split
    change reached.position = 0 + (encode value).length at position
    rw [position, Nat.zero_add, split]
    exact ⟨List.length_append ▸ Nat.le_add_right _ _, List.take_left⟩
  · rintro ⟨enough, front⟩
    have length : (bytes.take count).length = count := List.length_take_of_le enough
    have taken : (ofList bytes).Takes (bytes.take count) _ :=
      takes_advance (List.take_prefix count bytes)
    rw [length, front] at taken
    exact ⟨_, (reads_read _ _ _).mpr ⟨_, rfl, taken⟩, Nat.zero_add count⟩

/-- **A length at the front** is decoded, whatever follows it. -/
theorem decode_encode_append (value : UInt16) (rest : List UInt8) :
    decode (encode value ++ rest) = .ok (value, (encode value).length) :=
  decode_eq_ok_iff.mpr ⟨List.length_append ▸ Nat.le_add_right _ _, List.take_left⟩

private theorem decode_eq_error_iff : decode bytes = .error fault ↔
    ∃ reached, read (ofList bytes) = .error fault reached := by
  unfold decode
  cases read (ofList bytes) with
  | ok found place =>
      refine iff_of_false (fun impossible => by cases impossible) ?_
      rintro ⟨_, impossible⟩
      cases impossible
  | error other place =>
      constructor
      · intro same
        cases same
        exact ⟨place, rfl⟩
      · rintro ⟨_, same⟩
        cases same
        rfl

private theorem fault_of_decode (failed : decode bytes = .error fault) :
    fault = .truncatedInput 1 0 ∨ fault = .malformedLength := by
  obtain ⟨_, failed⟩ := decode_eq_error_iff.mp failed
  exact fault_of_readWithin failed

/-- No length is the beginning of another. -/
theorem not_isCutOff_of_decode {count : Nat} (found : decode bytes = .ok (value, count)) :
    ¬ IsCutOff bytes := by
  rintro ⟨whole, missing, some, split⟩
  obtain ⟨enough, front⟩ := decode_eq_ok_iff.mp found
  have again : decode (bytes ++ missing) = .ok (value, count) := by
    refine decode_eq_ok_iff.mpr ⟨?_, ?_⟩
    · exact Nat.le_trans enough (List.length_append ▸ Nat.le_add_right _ _)
    · rw [List.take_append_of_le_length enough, front]
  have other := decode_encode_append whole []
  rw [List.append_nil, split, again] at other
  cases other
  rw [List.length_append] at enough
  exact some (List.length_eq_zero_iff.mp (by omega))

private theorem decode_of_isCutOff (cut : IsCutOff bytes) :
    decode bytes = .error (.truncatedInput 1 0) := by
  obtain ⟨whole, missing, some, split⟩ := cut
  cases outcome : decode bytes with
  | ok found => exact (not_isCutOff_of_decode outcome ⟨whole, missing, some, split⟩).elim
  | error fault =>
      obtain ⟨_, failed⟩ := decode_eq_error_iff.mp outcome
      have read : read (ofList (bytes ++ missing)) =
          .ok whole ((ofList (bytes ++ missing)).advance (bytes ++ missing).length) :=
        (reads_read _ _ _).mpr ⟨_, split.symm, takes_advance (List.prefix_refl _)⟩
      -- A shortage is not a matter of form.
      rcases guarded_read.shortened _ _ _ _ _ lacks_ofList read with
        ⟨_, done, _⟩ | ⟨other, _, again, shortage⟩
      · rw [failed] at done
        cases done
      · rw [failed] at again
        cases again
        rcases fault_of_decode outcome with rfl | rfl
        · rfl
        · rcases shortage with ⟨_, _, impossible⟩ | ⟨_, _, _, impossible⟩ <;> cases impossible

private theorem isCutOff_of_decode (failed : decode bytes = .error (.truncatedInput needed left)) :
    IsCutOff bytes := by
  obtain ⟨_, failed⟩ := decode_eq_error_iff.mp failed
  obtain ⟨value, ended, read, nothing⟩ :=
    readWithin_of_truncated lacks_ofList Nat.zero_lt_one (Nat.le_refl _) failed
  obtain ⟨_, rfl, taken⟩ := (reads_read _ _ _).mp read
  obtain ⟨split, _⟩ := ofList_takes_iff.mp ⟨taken, nothing⟩
  exact ⟨value, [1], List.cons_ne_nil _ _, split⟩

/-- **What decoding makes of some bytes.** -/
structure Settled (bytes : List UInt8) : Prop where
  /-- A value is found exactly where its shortest form stands in front. -/
  accepts : ∀ value count, decode bytes = .ok (value, count) ↔
    count ≤ bytes.length ∧ bytes.take count = encode value
  /-- No other bytes are taken for the same value. -/
  once : ∀ other value count otherCount, decode bytes = .ok (value, count) →
    decode other = .ok (value, otherCount) →
      count = otherCount ∧ bytes.take count = other.take otherCount
  /-- The beginning of a shortest form lacks a byte. -/
  truncated : IsCutOff bytes ↔ decode bytes = .error (.truncatedInput 1 0)
  /-- All else that is refused is malformed. -/
  malformed : ∀ fault, decode bytes = .error fault → ¬ IsCutOff bytes → fault = .malformedLength

/-- **Decoding accepts the shortest forms**, whatever follows them, and tells those that break off
from bytes that are no length. So each length has one accepted spelling. -/
theorem settled_decode : (∀ bytes, Settled bytes) ∧
    ∀ value rest, decode (encode value ++ rest) = .ok (value, (encode value).length) := by
  refine ⟨fun bytes => ⟨?accepts, ?once, ?truncated, ?malformed⟩, decode_encode_append⟩
  case accepts => exact fun _ _ => decode_eq_ok_iff
  case once =>
    intro other value count otherCount first second
    obtain ⟨enough, front⟩ := decode_eq_ok_iff.mp first
    obtain ⟨otherEnough, otherFront⟩ := decode_eq_ok_iff.mp second
    have same : bytes.take count = other.take otherCount := front.trans otherFront.symm
    have lengths := congrArg List.length same
    rw [List.length_take_of_le enough, List.length_take_of_le otherEnough] at lengths
    exact ⟨lengths, same⟩
  case truncated => exact ⟨decode_of_isCutOff, isCutOff_of_decode⟩
  case malformed =>
    intro fault failed whole
    rcases fault_of_decode failed with rfl | rfl
    · exact (whole (isCutOff_of_decode failed)).elim
    · rfl

end CompactLength

end LedgerClient
