import LedgerClient.Wire.Cursor
import LedgerClient.Proofs.Outcome

/-! # What a reader takes

A read that succeeds takes some bytes from the front of what is left
(`LedgerClient.Cursor.Takes`). For each reader the bytes it takes are named, so a
read of several steps takes the bytes of its steps one after the other. A reader
*reads* a written form (`LedgerClient.Reader.Reads`) when it gives a value exactly
where the written form of that value comes next: it then accepts every written form
and no other bytes.
-/

namespace LedgerClient

namespace Cursor

variable {start middle reached : Cursor} {bytes first second : List UInt8}

/-- From one place to a later one, exactly these bytes are taken. -/
def Takes (start : Cursor) (bytes : List UInt8) (reached : Cursor) : Prop :=
  start.rest = bytes ++ reached.rest ∧ reached.position = start.position + bytes.length

/-- A place is known by how far it is and what is left. -/
theorem eq_of_rest {left right : Cursor} (position : left.position = right.position)
    (rest : left.rest = right.rest) : left = right := by
  obtain ⟨leftPosition, leftRest, leftRemaining, leftCount⟩ := left
  obtain ⟨rightPosition, rightRest, rightRemaining, rightCount⟩ := right
  subst position rest
  have counts : leftRemaining = rightRemaining := leftCount.trans rightCount.symm
  subst counts
  rfl

/-- Taking nothing is staying. -/
@[simp] theorem takes_nil_iff : start.Takes [] reached ↔ reached = start := by
  constructor
  · rintro ⟨rest, position⟩
    exact eq_of_rest position rest.symm
  · rintro rfl
    exact ⟨rfl, rfl⟩

/-- What is taken in two goes is taken in one. -/
theorem Takes.append (before : start.Takes first middle) (after : middle.Takes second reached) :
    start.Takes (first ++ second) reached := by
  refine ⟨?_, ?_⟩
  · rw [before.1, after.1, List.append_assoc]
  · rw [after.2, before.2, List.length_append, Nat.add_assoc]

/-- The bytes at the front of what is left can be taken. -/
theorem takes_advance (front : bytes <+: start.rest) :
    start.Takes bytes (start.advance bytes.length) := by
  obtain ⟨rest, split⟩ := front
  refine ⟨?_, rfl⟩
  rw [← split]
  simp only [advance, ← split, List.drop_left]

/-- Where bytes are taken in two parts, a place lies between the parts. -/
theorem takes_append_iff : start.Takes (first ++ second) reached ↔
    ∃ middle, start.Takes first middle ∧ middle.Takes second reached := by
  constructor
  · rintro ⟨rest, position⟩
    have split : start.rest = first ++ (second ++ reached.rest) := by
      rw [rest, List.append_assoc]
    have before : start.Takes first (start.advance first.length) :=
      takes_advance ⟨_, split.symm⟩
    refine ⟨_, before, ?_, ?_⟩
    · exact List.append_cancel_left (before.1.symm.trans split)
    · rw [position, before.2, List.length_append, Nat.add_assoc]
  · rintro ⟨middle, before, after⟩
    exact before.append after

/-- What was left before is as long as what is taken and what is left. -/
theorem Takes.length_rest (taken : start.Takes bytes reached) :
    start.rest.length = bytes.length + reached.rest.length := by
  rw [taken.1, List.length_append]

/-- The same bytes lead to the same place. -/
theorem Takes.eq_reached {other : Cursor} (taken : start.Takes bytes reached)
    (again : start.Takes bytes other) : reached = other := by
  refine eq_of_rest (taken.2.trans again.2.symm) ?_
  exact List.append_cancel_left (taken.1.symm.trans again.1)

/-- A whole buffer is taken when nothing is left of it. -/
theorem ofList_takes_iff : (ofList bytes).Takes first reached ∧ reached.rest = [] ↔
    first = bytes ∧ reached = (ofList bytes).advance bytes.length := by
  constructor
  · rintro ⟨taken, nothing⟩
    have whole : first = bytes := by
      have split := taken.1
      rw [nothing, List.append_nil] at split
      exact split.symm
    subst whole
    exact ⟨rfl, taken.eq_reached (takes_advance (List.prefix_refl _))⟩
  · rintro ⟨rfl, rfl⟩
    exact ⟨takes_advance (List.prefix_refl _), List.drop_length⟩

end Cursor

private theorem LittleEndian.encode_eq_iff {width n : Nat} {bytes : List UInt8}
    (fits : n < 256 ^ width) :
    bytes = encode width n ↔ bytes.length = width ∧ decode bytes = n := by
  constructor
  · rintro rfl
    exact ⟨length_encode width n, decode_encode fits⟩
  · rintro ⟨rfl, rfl⟩
    exact (encode_decode bytes).symm

namespace Reader

open Cursor

variable {α β : Type} {start middle reached : Cursor}

/-- Reading nothing stays where it is. -/
theorem pure_eq_ok_iff {value found : α} :
    (pure value : Reader α) start = .ok found reached ↔ found = value ∧ reached = start := by
  constructor
  · intro same
    cases same
    exact ⟨rfl, rfl⟩
  · rintro ⟨rfl, rfl⟩
    rfl

/-- A reader that succeeds hands over to the next one. -/
theorem bind_of_ok {read : Reader α} {next : α → Reader β} {found : α}
    (first : read start = .ok found middle) : (read >>= next) start = next found middle := by
  change EStateM.bind read next start = _
  simp only [EStateM.bind, first]

/-- A reader that fails ends the reading. -/
theorem bind_of_error {read : Reader α} {next : α → Reader β} {fault : LedgerError}
    (first : read start = .error fault middle) : (read >>= next) start = .error fault middle := by
  change EStateM.bind read next start = _
  simp only [EStateM.bind, first]

/-- A fault is no value. -/
@[simp] theorem throw_ne_ok {fault : LedgerError} {value : α} :
    (throw fault : Reader α) start ≠ .ok value reached := by
  intro impossible
  cases impossible

/-- A read of two steps succeeds when the second succeeds where the first ends. -/
theorem bind_eq_ok_iff {read : Reader α} {next : α → Reader β} {value : β} :
    (read >>= next) start = .ok value reached ↔
      ∃ found middle, read start = .ok found middle ∧ next found middle = .ok value reached := by
  cases first : read start with
  | ok found middle =>
      rw [bind_of_ok first]
      constructor
      · intro second
        exact ⟨found, middle, rfl, second⟩
      · rintro ⟨other, place, same, second⟩
        cases same
        exact second
  | error fault middle =>
      rw [bind_of_error first]
      refine iff_of_false throw_ne_ok ?_
      rintro ⟨other, place, impossible, _⟩
      cases impossible

/-- A read that refuses some cases goes on in the others. -/
theorem refuse_eq_ok_iff {refused : Prop} [Decidable refused] {fault : LedgerError}
    {unreached : β → Reader α} {next : Reader α} {value : α} :
    (if refused then throw fault >>= unreached else next) start = .ok value reached ↔
      ¬ refused ∧ next start = .ok value reached := by
  by_cases holds : refused
  · rw [if_pos holds]
    refine iff_of_false throw_ne_ok ?_
    rintro ⟨allowed, _⟩
    exact allowed holds
  · rw [if_neg holds]
    exact (and_iff_right holds).symm

/-- **A reader of a written form.** It gives a value and ends at a place exactly
when it takes bytes there that spell the value. -/
def Reads (read : Reader α) (spells : α → List UInt8 → Prop) : Prop :=
  ∀ start value reached, read start = .ok value reached ↔
    ∃ bytes, spells value bytes ∧ start.Takes bytes reached

/-- Taking bytes takes as many as it is told. -/
theorem reads_take (count : Nat) :
    (take count).Reads fun value bytes => value.length = count ∧ bytes = value := by
  intro start value reached
  unfold take
  split
  case isTrue short =>
    rw [start.remaining_eq] at short
    refine iff_of_false throw_ne_ok ?_
    rintro ⟨bytes, ⟨length, rfl⟩, taken⟩
    have total := taken.length_rest
    omega
  case isFalse enough =>
    rw [start.remaining_eq] at enough
    have length : (start.rest.take count).length = count := by
      rw [List.length_take]
      omega
    have taken : start.Takes (start.rest.take count) (start.advance count) := by
      have front := takes_advance (List.take_prefix count start.rest)
      rwa [length] at front
    constructor
    · intro same
      cases same
      exact ⟨_, ⟨length, rfl⟩, taken⟩
    · rintro ⟨bytes, ⟨rfl, rfl⟩, other⟩
      have same : start.rest.take bytes.length = bytes := by
        rw [other.1, List.take_left]
      rw [same] at taken ⊢
      rw [other.eq_reached taken]

/-- The next byte can be seen where there is one. -/
theorem peek_one_eq_ok_iff {bytes : List UInt8} :
    peek 1 start = .ok bytes reached ↔
      ∃ first rest, start.rest = first :: rest ∧ bytes = [first] ∧ reached = start := by
  unfold peek
  rw [start.remaining_eq]
  cases split : start.rest with
  | nil =>
      rw [if_pos (show [].length < 1 from Nat.zero_lt_one)]
      simp only [reduceCtorEq, false_and, exists_false]
  | cons first rest =>
      have some : ¬ (first :: rest).length < 1 := Nat.not_lt.mpr (Nat.succ_pos _)
      rw [if_neg some, List.take_succ_cons, List.take_zero]
      constructor
      · intro same
        cases same
        exact ⟨first, rest, rfl, rfl, rfl⟩
      · rintro ⟨other, later, same, rfl, rfl⟩
        cases same
        rfl

/-- A field of a fixed width is its bytes. -/
theorem reads_fixed (width : Nat) :
    (fixed width).Reads fun value bytes => bytes = value.toList := by
  intro start value reached
  have whole := reads_take width start value.toList reached
  unfold fixed
  unfold take at whole
  split
  case isTrue short =>
    rw [if_pos short] at whole
    refine iff_of_false throw_ne_ok ?_
    rintro ⟨bytes, rfl, taken⟩
    cases whole.mpr ⟨_, ⟨value.length_toList, rfl⟩, taken⟩
  case isFalse enough =>
    rw [if_neg enough] at whole
    constructor
    · intro same
      cases same
      obtain ⟨bytes, ⟨_, rfl⟩, taken⟩ := whole.mp rfl
      exact ⟨_, rfl, taken⟩
    · rintro ⟨bytes, rfl, taken⟩
      obtain ⟨same, place⟩ := EStateM.Result.ok.inj
        (whole.mpr ⟨_, ⟨value.length_toList, rfl⟩, taken⟩)
      rw [place]
      exact congrArg (EStateM.Result.ok · reached) (Bytes.ext same)

/-- A number of one byte is that byte. -/
theorem reads_byte : byte.Reads fun value bytes => bytes = [value] := by
  intro start value reached
  simp only [byte, number, bind_eq_ok_iff, pure_eq_ok_iff, reads_take 1 start _ _]
  constructor
  · rintro ⟨_, _, ⟨field, _, ⟨bytes, ⟨length, rfl⟩, taken⟩, rfl, rfl⟩, rfl, rfl⟩
    obtain ⟨only, rfl⟩ := List.length_eq_one_iff.mp length
    refine ⟨_, ?_, taken⟩
    simp only [LittleEndian.decode, Nat.mul_zero, Nat.add_zero, UInt8.ofNat_toNat]
  · rintro ⟨bytes, rfl, taken⟩
    refine ⟨_, _, ⟨[value], _, ⟨[value], ⟨rfl, rfl⟩, taken⟩, rfl, rfl⟩, ?_, rfl⟩
    simp only [LittleEndian.decode, Nat.mul_zero, Nat.add_zero, UInt8.ofNat_toNat]

/-- Something found without reading takes no bytes. -/
theorem ofExcept_eq_ok_iff {found : Except LedgerError α} {value : α} :
    ofExcept found start = .ok value reached ↔ found = .ok value ∧ reached = start := by
  unfold ofExcept
  cases found with
  | ok other =>
      constructor
      · intro same
        cases same
        exact ⟨rfl, rfl⟩
      · rintro ⟨same, rfl⟩
        cases same
        rfl
  | error fault =>
      refine iff_of_false throw_ne_ok ?_
      rintro ⟨impossible, _⟩
      cases impossible

/-- How much is left is asked without reading. -/
theorem remaining_eq_ok_iff {count : Nat} :
    remaining start = .ok count reached ↔ count = start.rest.length ∧ reached = start := by
  unfold remaining
  rw [start.remaining_eq]
  constructor
  · intro same
    cases same
    exact ⟨rfl, rfl⟩
  · rintro ⟨rfl, rfl⟩
    rfl

/-- Values read behind others spell what is taken, one after the other. -/
private theorem timesOnto_eq_ok_iff {read : Reader α} {spells : α → List UInt8 → Prop}
    (reads : read.Reads spells) {count : Nat} {found values : List α} {start : Cursor} :
    timesOnto read found count start = .ok values reached ↔
      ∃ later chunks, values = found.reverse ++ later ∧ later.length = count ∧
        List.Forall₂ spells later chunks ∧ start.Takes chunks.flatten reached := by
  induction count generalizing found start with
  | zero =>
      constructor
      · intro same
        cases same
        exact ⟨[], [], (List.append_nil _).symm, rfl, .nil, takes_nil_iff.mpr rfl⟩
      · rintro ⟨later, chunks, rfl, length, spelled, taken⟩
        obtain rfl := List.length_eq_zero_iff.mp length
        obtain rfl := List.forall₂_nil_left_iff.mp spelled
        rw [takes_nil_iff.mp taken, List.append_nil]
        rfl
  | succ count ih =>
      constructor
      · intro whole
        unfold timesOnto at whole
        split at whole
        case h_2 fault middle failed => cases whole
        case h_1 value middle first =>
          obtain ⟨bytes, spelledFirst, takenFirst⟩ := (reads _ _ _).mp first
          obtain ⟨later, chunks, rfl, length, spelled, taken⟩ := ih.mp whole
          refine ⟨value :: later, bytes :: chunks, ?_, ?_, .cons spelledFirst spelled, ?_⟩
          · rw [List.reverse_cons, List.append_assoc, List.singleton_append]
          · rw [List.length_cons, length]
          · rw [List.flatten_cons]
            exact takenFirst.append taken
      · rintro ⟨later, chunks, rfl, length, spelled, taken⟩
        obtain ⟨value, rest, rfl⟩ := List.exists_cons_of_length_eq_add_one length
        obtain ⟨bytes, others, spelledFirst, spelledRest, rfl⟩ :=
          List.forall₂_cons_left_iff.mp spelled
        rw [List.flatten_cons, takes_append_iff] at taken
        obtain ⟨middle, takenFirst, takenRest⟩ := taken
        have first := (reads _ _ _).mpr ⟨bytes, spelledFirst, takenFirst⟩
        unfold timesOnto
        rw [first]
        refine ih.mpr ⟨rest, others, ?_, ?_, spelledRest, takenRest⟩
        · rw [List.reverse_cons, List.append_assoc, List.singleton_append]
        · exact Nat.succ.inj length

/-- The spellings of some values, one after the other. -/
def SpellsEach (spells : α → List UInt8 → Prop) (values : List α) (bytes : List UInt8) : Prop :=
  ∃ chunks, List.Forall₂ spells values chunks ∧ bytes = chunks.flatten

/-- Values whose spelling is a function of the value are spelled by its results. -/
theorem spellsEach_eq_iff {spelling : α → List UInt8} {values : List α} {bytes : List UInt8} :
    SpellsEach (fun value chunk => chunk = spelling value) values bytes ↔
      bytes = (values.map spelling).flatten := by
  have each (chunks : List (List UInt8)) :
      List.Forall₂ (fun value chunk => chunk = spelling value) values chunks ↔
        values.map spelling = chunks := by
    have mapped := List.forall₂_map_left_iff (R := Eq) (f := spelling) (l := values) (u := chunks)
    rw [List.forall₂_eq_eq_eq] at mapped
    simp only [mapped, eq_comm]
  constructor
  · rintro ⟨chunks, spelled, rfl⟩
    rw [(each chunks).mp spelled]
  · rintro rfl
    exact ⟨_, (each _).mpr rfl, rfl⟩

/-- Values that take so many bytes each take as many times that together. -/
theorem SpellsEach.length_mul_le {spells : α → List UInt8 → Prop} {size : Nat}
    (each : ∀ value bytes, spells value bytes → size ≤ bytes.length) {values : List α}
    {bytes : List UInt8} (spelled : SpellsEach spells values bytes) :
    values.length * size ≤ bytes.length := by
  obtain ⟨chunks, spelled, rfl⟩ := spelled
  induction spelled with
  | nil => exact Nat.le_of_eq (Nat.zero_mul size)
  | cons first rest ih =>
      have enough := each _ _ first
      rw [List.length_cons, Nat.succ_mul, List.flatten_cons, List.length_append]
      omega

/-- Values read one after the other spell what is taken. -/
theorem reads_times {read : Reader α} {spells : α → List UInt8 → Prop}
    (reads : read.Reads spells) (count : Nat) :
    (times count read).Reads fun values bytes =>
      values.length = count ∧ SpellsEach spells values bytes := by
  intro start values reached
  rw [times, timesOnto_eq_ok_iff reads]
  constructor
  · rintro ⟨later, chunks, rfl, length, spelled, taken⟩
    exact ⟨_, ⟨length, chunks, spelled, rfl⟩, taken⟩
  · rintro ⟨bytes, ⟨length, chunks, spelled, rfl⟩, taken⟩
    exact ⟨values, chunks, rfl, length, spelled, taken⟩

/-- Fields of one width are their bytes, one after the other. -/
theorem reads_times_fixed (width count : Nat) :
    (times count (fixed width)).Reads fun values bytes =>
      values.length = count ∧ bytes = (values.map (·.toList)).flatten := by
  intro start values reached
  rw [reads_times (reads_fixed width) count start values reached]
  simp only [spellsEach_eq_iff]

/-- Fields of one width are as long as their number says. -/
theorem length_mul_le_of_fixed {width : Nat} (values : List (Bytes width)) (bytes : List UInt8)
    (spelled : bytes = (values.map (·.toList)).flatten) : values.length * width ≤ bytes.length := by
  refine SpellsEach.length_mul_le ?_ (spellsEach_eq_iff.mpr spelled)
  rintro value _ rfl
  exact Nat.le_of_eq value.length_toList.symm

/-- Reading is finished if nothing is left. -/
theorem finish_eq_ok_iff {value : Unit} :
    finish start = .ok value reached ↔ start.rest = [] ∧ reached = start := by
  have nothing : start.isEmpty = true ↔ start.rest = [] := by
    rw [Cursor.isEmpty, start.remaining_eq, beq_iff_eq, List.length_eq_zero_iff]
  unfold finish
  split
  case isTrue empty =>
    constructor
    · intro same
      cases same
      exact ⟨nothing.mp empty, rfl⟩
    · rintro ⟨_, rfl⟩
      rfl
  case isFalse more =>
    refine iff_of_false throw_ne_ok ?_
    rintro ⟨empty, _⟩
    exact more (nothing.mpr empty)

/-- A run begins at the start of the bytes. -/
theorem run_eq_ok_iff {read : Reader α} {bytes : List UInt8} {value : α} :
    run read bytes = .ok value ↔ ∃ reached, read (ofList bytes) = .ok value reached := by
  unfold run
  cases read (ofList bytes) with
  | ok found reached =>
      constructor
      · intro same
        cases same
        exact ⟨reached, rfl⟩
      · rintro ⟨other, same⟩
        cases same
        rfl
  | error fault reached =>
      refine iff_of_false Outcome.throw_ne_ok ?_
      rintro ⟨other, impossible⟩
      cases impossible

/-- **A whole buffer is read** exactly when it is a spelling of the value. -/
theorem Reads.run_finish_eq_ok_iff {read : Reader α} {spells : α → List UInt8 → Prop}
    (reads : read.Reads spells) {bytes : List UInt8} {value : α} :
    run (do
      let value ← read
      finish
      return value) bytes = .ok value ↔ spells value bytes := by
  simp only [run_eq_ok_iff, bind_eq_ok_iff, pure_eq_ok_iff, finish_eq_ok_iff, reads _ _ _]
  constructor
  · rintro ⟨reached, _, _, ⟨taken, spelled, takes⟩, _, _, ⟨nothing, rfl⟩, rfl, rfl⟩
    obtain ⟨rfl, _⟩ := ofList_takes_iff.mp ⟨takes, nothing⟩
    exact spelled
  · intro spelled
    obtain ⟨takes, nothing⟩ := ofList_takes_iff.mpr ⟨rfl, rfl⟩
    exact ⟨_, value, _, ⟨bytes, spelled, takes⟩, (), _, ⟨nothing, rfl⟩, rfl, rfl⟩

/-- A fault of a read is the fault of reading the whole buffer. -/
theorem run_finish_of_error {read : Reader α} {bytes : List UInt8} {fault : LedgerError}
    (failed : read (ofList bytes) = .error fault reached) :
    run (do
      let value ← read
      finish
      return value) bytes = .error fault := by
  unfold run
  rw [bind_of_error failed]

/-- A check that fails ends the reading. -/
theorem ofExcept_of_error {found : Except LedgerError α} {fault : LedgerError}
    (failed : found = .error fault) : ofExcept found start = .error fault start := by
  subst failed
  rfl

section Steps

variable {read : Reader α} {spells other : α → List UInt8 → Prop}

/-- What a reader reads may be said in any equivalent way. -/
theorem Reads.congr (reads : read.Reads spells)
    (same : ∀ value bytes, spells value bytes ↔ other value bytes) : read.Reads other := by
  intro start value reached
  rw [reads start value reached]
  simp only [same]

/-- Reading nothing takes nothing. -/
theorem reads_pure {value : α} :
    (pure value : Reader α).Reads fun found bytes => found = value ∧ bytes = [] := by
  intro start found reached
  rw [pure_eq_ok_iff]
  constructor
  · rintro ⟨rfl, rfl⟩
    exact ⟨[], ⟨rfl, rfl⟩, takes_nil_iff.mpr rfl⟩
  · rintro ⟨_, ⟨rfl, rfl⟩, taken⟩
    exact ⟨rfl, takes_nil_iff.mp taken⟩

/-- A check takes nothing. -/
theorem reads_ofExcept {found : Except LedgerError α} :
    (ofExcept found).Reads fun value bytes => found = .ok value ∧ bytes = [] := by
  intro start value reached
  rw [ofExcept_eq_ok_iff]
  constructor
  · rintro ⟨same, rfl⟩
    exact ⟨[], ⟨same, rfl⟩, takes_nil_iff.mpr rfl⟩
  · rintro ⟨_, ⟨same, rfl⟩, taken⟩
    exact ⟨same, takes_nil_iff.mp taken⟩

/-- A fault reads nothing. -/
theorem reads_throw {fault : LedgerError} :
    (throw fault : Reader α).Reads fun _ _ => False := by
  intro start value reached
  refine iff_of_false throw_ne_ok ?_
  rintro ⟨_, impossible, _⟩
  exact impossible

/-- A check in front of a reader adds its condition to what is read. -/
theorem Reads.refuse {refused : Prop} [Decidable refused] {fault : LedgerError}
    {unreached : β → Reader α} (reads : read.Reads spells) :
    (if refused then throw fault >>= unreached else read).Reads fun value bytes =>
      ¬ refused ∧ spells value bytes := by
  intro start value reached
  rw [refuse_eq_ok_iff, reads start value reached]
  constructor
  · rintro ⟨allowed, bytes, spelled, taken⟩
    exact ⟨bytes, ⟨allowed, spelled⟩, taken⟩
  · rintro ⟨bytes, ⟨allowed, spelled⟩, taken⟩
    exact ⟨allowed, bytes, spelled, taken⟩

/-- **Two reads in order** read one form behind the other. -/
theorem Reads.bind {next : α → Reader β} {later : α → β → List UInt8 → Prop}
    (first : read.Reads spells) (second : ∀ found, (next found).Reads (later found)) :
    (read >>= next).Reads fun value bytes => ∃ found front back,
      spells found front ∧ later found value back ∧ bytes = front ++ back := by
  intro start value reached
  rw [bind_eq_ok_iff]
  constructor
  · rintro ⟨found, middle, before, after⟩
    obtain ⟨front, spelled, taken⟩ := (first _ _ _).mp before
    obtain ⟨back, spelledBack, takenBack⟩ := (second _ _ _ _).mp after
    exact ⟨_, ⟨found, front, back, spelled, spelledBack, rfl⟩, taken.append takenBack⟩
  · rintro ⟨_, ⟨found, front, back, spelled, spelledBack, rfl⟩, taken⟩
    obtain ⟨middle, before, after⟩ := takes_append_iff.mp taken
    exact ⟨found, middle, (first _ _ _).mpr ⟨front, spelled, before⟩,
      (second _ _ _ _).mpr ⟨back, spelledBack, after⟩⟩

end Steps

section Numbers

variable {width : Nat} {ofNat : Nat → α} {toNat : α → Nat}

/-- A number of some bytes is read as it is written. -/
theorem reads_number (fits : ∀ value, toNat value < 256 ^ width)
    (inverse : ∀ value, ofNat (toNat value) = value)
    (small : ∀ n, n < 256 ^ width → toNat (ofNat n) = n) :
    (return ofNat (← number width) : Reader α).Reads fun value bytes =>
      bytes = LittleEndian.encode width (toNat value) := by
  refine (((reads_take width).bind fun field => reads_pure).bind fun n => reads_pure).congr ?_
  intro value bytes
  rw [LittleEndian.encode_eq_iff (fits value)]
  constructor
  · rintro ⟨_, _, _, ⟨_, field, _, ⟨length, rfl⟩, ⟨rfl, rfl⟩, rfl⟩, ⟨rfl, rfl⟩, rfl⟩
    have bounded := LittleEndian.decode_lt field
    rw [length] at bounded
    simp only [List.append_nil]
    exact ⟨length, (small _ bounded).symm⟩
  · rintro ⟨length, same⟩
    refine ⟨_, _, [], ⟨bytes, _, [], ⟨length, rfl⟩, ⟨rfl, rfl⟩, rfl⟩, ⟨?_, rfl⟩, ?_⟩
    · rw [same, inverse]
    · rw [List.append_nil, List.append_nil]

/-- A word of four bytes is read with the lowest byte first. -/
theorem reads_word32 : word32.Reads fun value bytes =>
    bytes = LittleEndian.encode 4 value.toNat :=
  reads_number UInt32.toNat_lt (fun _ => UInt32.ofNat_toNat) fun _ => UInt32.toNat_ofNat_of_lt'

/-- A word of eight bytes is read with the lowest byte first. -/
theorem reads_word64 : word64.Reads fun value bytes =>
    bytes = LittleEndian.encode 8 value.toNat :=
  reads_number UInt64.toNat_lt (fun _ => UInt64.ofNat_toNat) fun _ => UInt64.toNat_ofNat_of_lt'

end Numbers

end Reader

end LedgerClient
