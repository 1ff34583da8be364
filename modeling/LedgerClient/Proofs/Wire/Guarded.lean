import LedgerClient.Proofs.Wire.CompactLength

/-! # Reading bytes that nobody vouches for

A reader is *guarded* (`LedgerClient.Reader.Guarded`) when it stays in its buffer, has only
the bytes to blame for what goes wrong, and, where the end of the buffer is missing, comes to
the same value or finds that bytes are missing. Whatever is made of guarded readers by doing
one after the other is guarded. A guarded reader of a written form refuses the form with its
end cut off, and with more behind it (`LedgerClient.Reader.Guarded.strict`).
-/

namespace LedgerClient

/-- The same place in two buffers, of which the first lacks the last bytes of the second. -/
def Cursor.Lacks (short full : Cursor) (missing : List UInt8) : Prop :=
  full.rest = short.rest ++ missing ∧ full.position = short.position

/-- A fault of a buffer that is too short: for a field, or for as many elements as a count
announces. -/
def IsShortage (fault : LedgerError) : Prop :=
  (∃ needed remaining, fault = .truncatedInput needed remaining) ∨
    ∃ what count remaining, fault = .countOverflow what count remaining

namespace Cursor

variable {short full : Cursor} {missing : List UInt8}

/-- Both cursors advance by what the shorter one has. -/
theorem Lacks.advance (lacks : short.Lacks full missing) {count : Nat}
    (enough : count ≤ short.rest.length) :
    (short.advance count).Lacks (full.advance count) missing := by
  obtain ⟨rest, position⟩ := lacks
  refine ⟨?_, congrArg (· + count) position⟩
  change full.rest.drop count = short.rest.drop count ++ missing
  rw [rest, List.drop_append_of_le_length enough]

/-- A front lacks what follows it. -/
theorem lacks_ofList {front : List UInt8} :
    (ofList front).Lacks (ofList (front ++ missing)) missing := ⟨rfl, rfl⟩

/-- What is left holds a window of any smaller size. -/
theorem exists_window {start : Cursor} {size : Nat} (enough : size ≤ start.rest.length) :
    ∃ window : Bytes size, window.toList <+: start.rest := by
  have length : (start.rest.take size).length = size := by
    rw [List.length_take]
    omega
  exact ⟨⟨_, length⟩, List.take_prefix size start.rest⟩

end Cursor

namespace Reader

open Cursor

variable {α β : Type} {read : Reader α} {start reached : Cursor}

/-- The place where a read ends, whether or not it succeeds. -/
def endOf (read : Reader α) (start : Cursor) : Cursor :=
  match read start with
  | .ok _ reached => reached
  | .error _ reached => reached

/-- A reader that succeeds ends where it has got. -/
theorem endOf_of_ok {value : α} (done : read start = .ok value reached) :
    read.endOf start = reached := by
  rw [endOf, done]

/-- A reader that fails ends where it has got. -/
theorem endOf_of_error {fault : LedgerError} (failed : read start = .error fault reached) :
    read.endOf start = reached := by
  rw [endOf, failed]

/-- **A reader that may be given any bytes.** -/
structure Guarded (read : Reader α) : Prop where
  /-- It ends in the buffer, behind the bytes that it took. -/
  inside : ∀ start : Cursor, ∃ taken, start.Takes taken (read.endOf start)
  /-- Only the bytes are to blame. -/
  malformed : ∀ start fault reached, read start = .error fault reached →
    fault.kind = .malformedInput
  /-- Where the last bytes are missing, it does without them or finds that they are. -/
  shortened : ∀ (short full : Cursor) missing value reached, short.Lacks full missing →
    read full = .ok value reached →
      (∃ earlier : Cursor, read short = .ok value earlier ∧ earlier.Lacks reached missing) ∨
        ∃ fault place, read short = .error fault place ∧ IsShortage fault

section Steps

/-- Reading nothing is guarded. -/
theorem guarded_pure (value : α) : Guarded (pure value) where
  inside start := ⟨[], takes_nil_iff.mpr rfl⟩
  malformed start fault reached failed := by cases failed
  shortened short full missing found reached lacks done := by
    obtain ⟨rfl, rfl⟩ := pure_eq_ok_iff.mp done
    exact .inl ⟨short, rfl, lacks⟩

private theorem guarded_throw {fault : LedgerError} (malformed : fault.kind = .malformedInput) :
    Guarded (throw fault : Reader α) where
  inside start := ⟨[], takes_nil_iff.mpr rfl⟩
  malformed start other reached failed := by
    cases failed
    exact malformed
  shortened short full missing found reached lacks done := by cases done

/-- **One guarded reader after the other** is guarded. -/
theorem Guarded.bind {next : α → Reader β} (first : Guarded read)
    (second : ∀ found, Guarded (next found)) : Guarded (read >>= next) where
  inside start := by
    obtain ⟨taken, before⟩ := first.inside start
    cases outcome : read start with
    | error fault middle =>
        rw [endOf_of_error outcome] at before
        rw [endOf_of_error (bind_of_error outcome)]
        exact ⟨taken, before⟩
    | ok found middle =>
        rw [endOf_of_ok outcome] at before
        obtain ⟨more, after⟩ := (second found).inside middle
        have same : (read >>= next).endOf start = (next found).endOf middle := by
          rw [endOf, endOf, bind_of_ok outcome]
        rw [same]
        exact ⟨taken ++ more, before.append after⟩
  malformed start fault reached failed := by
    cases outcome : read start with
    | error other middle =>
        rw [bind_of_error outcome] at failed
        cases failed
        exact first.malformed _ _ _ outcome
    | ok found middle =>
        rw [bind_of_ok outcome] at failed
        exact (second found).malformed _ _ _ failed
  shortened short full missing value reached lacks done := by
    obtain ⟨found, middle, begun, ended⟩ := bind_eq_ok_iff.mp done
    rcases first.shortened _ _ _ _ _ lacks begun with ⟨earlier, again, behind⟩ | ⟨fault, place,
      failed, shortage⟩
    · rw [bind_of_ok again]
      exact (second found).shortened _ _ _ _ _ behind ended
    · exact .inr ⟨fault, place, bind_of_error failed, shortage⟩

/-- A choice between guarded readers is guarded. -/
theorem Guarded.ite {chosen : Prop} [Decidable chosen] {first second : Reader α}
    (yes : Guarded first) (no : Guarded second) : Guarded (if chosen then first else second) := by
  split
  case isTrue => exact yes
  case isFalse => exact no

/-- A case may be refused for the bytes. -/
theorem Guarded.refuse {refused : Prop} [Decidable refused] {fault : LedgerError}
    {unreached : β → Reader α} (guarded : Guarded read)
    (malformed : fault.kind = .malformedInput) :
    Guarded (if refused then throw fault >>= unreached else read) := by
  split
  case isTrue =>
    have refusing : (throw fault >>= unreached : Reader α) = throw fault := rfl
    rw [refusing]
    exact guarded_throw malformed
  case isFalse => exact guarded

/-- A number of bytes may be asked for before more is read. -/
theorem Guarded.backed {needed count : Nat} {what : String} {unreached : β → Reader α}
    (guarded : Guarded read) :
    Guarded (remaining >>= fun left =>
      if left < needed then throw (.countOverflow what count left) >>= unreached else read) := by
  have whole (start : Cursor) : (remaining >>= fun left =>
      if left < needed then throw (.countOverflow what count left) >>= unreached else read) start =
        if start.rest.length < needed then
          .error (.countOverflow what count start.rest.length) start
        else read start := by
    rw [bind_of_ok (remaining_eq_ok_iff.mpr ⟨rfl, rfl⟩)]
    split <;> rfl
  refine ⟨fun start => ?_, fun start fault reached failed => ?_, ?_⟩
  · rw [endOf, whole]
    by_cases few : start.rest.length < needed
    · rw [if_pos few]
      exact ⟨[], takes_nil_iff.mpr rfl⟩
    · rw [if_neg few]
      exact guarded.inside start
  · rw [whole] at failed
    split at failed
    case isTrue =>
      cases failed
      rfl
    case isFalse => exact guarded.malformed _ _ _ failed
  · intro short full missing value reached lacks done
    rw [whole] at done
    rw [whole]
    split at done
    case isTrue => cases done
    case isFalse =>
      split
      case isTrue => exact .inr ⟨_, _, rfl, .inr ⟨_, _, _, rfl⟩⟩
      case isFalse => exact guarded.shortened _ _ _ _ _ lacks done

/-- **A reader that looks at the next `size` bytes** and takes `step` of them. Where there are
fewer, it takes none. -/
structure Looks {size : Nat} (read : Reader α) (step : Nat) (valueOf : Bytes size → α) : Prop where
  within : step ≤ size
  short : ∀ start : Cursor, start.rest.length < size →
    read start = .error (.truncatedInput size start.rest.length) start
  enough : ∀ (start : Cursor) (window : Bytes size), window.toList <+: start.rest →
    read start = .ok (valueOf window) (start.advance step)

/-- **Looking at a window is guarded.** -/
theorem Looks.guarded {size step : Nat} {valueOf : Bytes size → α}
    (looks : Looks read step valueOf) : Guarded read where
  inside start := by
    rcases Nat.lt_or_ge start.rest.length size with few | many
    · rw [endOf_of_error (looks.short start few)]
      exact ⟨[], takes_nil_iff.mpr rfl⟩
    · obtain ⟨window, front⟩ := exists_window many
      rw [endOf_of_ok (looks.enough start window front)]
      have length : (start.rest.take step).length = step := by
        rw [List.length_take]
        have := looks.within
        omega
      have taken := takes_advance (List.take_prefix step start.rest)
      rw [length] at taken
      exact ⟨_, taken⟩
  malformed start fault reached failed := by
    rcases Nat.lt_or_ge start.rest.length size with few | many
    · rw [looks.short start few] at failed
      cases failed
      rfl
    · obtain ⟨window, front⟩ := exists_window many
      rw [looks.enough start window front] at failed
      cases failed
  shortened cut full missing value reached lacks done := by
    rcases Nat.lt_or_ge cut.rest.length size with few | many
    · exact .inr ⟨_, _, looks.short cut few, .inl ⟨_, _, rfl⟩⟩
    · obtain ⟨window, front⟩ := exists_window many
      have behind : window.toList <+: full.rest := by
        rw [lacks.1]
        exact front.trans (List.prefix_append _ _)
      rw [looks.enough full window behind] at done
      cases done
      exact .inl ⟨_, looks.enough cut window front, lacks.advance (Nat.le_trans looks.within many)⟩

/-- What is made of the value that is found is found in the same place. -/
theorem Looks.map {size step : Nat} {valueOf : Bytes size → α} (looks : Looks read step valueOf)
    (make : α → β) : Looks (read >>= fun value => pure (make value)) step (make ∘ valueOf) where
  within := looks.within
  short start few := bind_of_error (looks.short start few)
  enough start window front := bind_of_ok (looks.enough start window front)

/-- Peeking looks at what it leaves. -/
theorem looks_peek (count : Nat) : Looks (peek count) 0 fun window : Bytes count =>
    window.toList where
  within := Nat.zero_le count
  short start few := by rw [peek, start.remaining_eq, if_pos few]
  enough start window front := by
    have length := front.length_le
    rw [window.length_toList] at length
    rw [peek, start.remaining_eq, if_neg (Nat.not_lt.mpr length), List.prefix_iff_eq_take.mp front,
      window.length_toList]
    exact congrArg _ (eq_of_rest rfl rfl)

/-- Taking looks at what it takes. -/
theorem looks_take (count : Nat) : Looks (take count) count fun window : Bytes count =>
    window.toList where
  within := Nat.le_refl count
  short start few := by rw [take, start.remaining_eq, if_pos few]
  enough start window front := by
    have length := front.length_le
    rw [window.length_toList] at length
    rw [take, start.remaining_eq, if_neg (Nat.not_lt.mpr length), List.prefix_iff_eq_take.mp front,
      window.length_toList]

/-- A field looks at its own width. -/
theorem looks_fixed (width : Nat) :
    Looks (fixed width) width fun window : Bytes width => window where
  within := Nat.le_refl width
  short start few := by
    rw [fixed, dif_pos (by rwa [start.remaining_eq])]
    rw [start.remaining_eq]
  enough start window front := by
    have taken := takes_advance front
    rw [window.length_toList] at taken
    exact (reads_fixed width _ _ _).mpr ⟨_, rfl, taken⟩

/-- A number looks at its own width. -/
theorem looks_number (width : Nat) : Looks (number width) width fun window : Bytes width =>
    LittleEndian.decode window.toList :=
  (looks_take width).map LittleEndian.decode

/-- Peeking is guarded. -/
theorem guarded_peek (count : Nat) : Guarded (peek count) := (looks_peek count).guarded

/-- Taking is guarded. -/
theorem guarded_take (count : Nat) : Guarded (take count) := (looks_take count).guarded

/-- Reading a field is guarded. -/
theorem guarded_fixed (width : Nat) : Guarded (fixed width) := (looks_fixed width).guarded

/-- Reading a byte is guarded. -/
theorem guarded_byte : Guarded byte := ((looks_number 1).map UInt8.ofNat).guarded

/-- A check is guarded if it refuses malformed input alone. -/
theorem guarded_ofExcept {found : Except LedgerError α}
    (malformed : ∀ fault, found = .error fault → fault.kind = .malformedInput) :
    Guarded (ofExcept found) := by
  cases found with
  | ok value => exact guarded_pure value
  | error fault => exact guarded_throw (malformed fault rfl)

/-- Values are read onto others one after the other. -/
theorem timesOnto_succ (read : Reader α) (found : List α) (count : Nat) :
    timesOnto read found (count + 1) =
      read >>= fun value => timesOnto read (value :: found) count := by
  funext start
  rw [timesOnto]
  split
  case h_1 done => rw [bind_of_ok done]
  case h_2 failed => rw [bind_of_error failed]

/-- Reading guarded elements is guarded. -/
theorem guarded_times (guarded : Guarded read) (count : Nat) : Guarded (times count read) := by
  have onto (found : List α) : Guarded (timesOnto read found count) := by
    induction count generalizing found with
    | zero => exact guarded_pure _
    | succ count ih =>
        rw [timesOnto_succ]
        exact guarded.bind fun value => ih (value :: found)
  exact onto []

end Steps

/-- **A format that stands up to any bytes.** -/
structure Strict (read : Reader α) (deserialize : List UInt8 → Except LedgerError α) : Prop where
  /-- Reading ends in the buffer, behind the bytes it took. -/
  inside : ∀ bytes, ∃ taken, (ofList bytes).Takes taken (read.endOf (ofList bytes))
  /-- Only the bytes are to blame for a fault. -/
  malformed : ∀ bytes fault, deserialize bytes = .error fault → fault.kind = .malformedInput
  /-- What is accepted is refused with its end cut off, as too short. -/
  shortened : ∀ front missing value, deserialize (front ++ missing) = .ok value → missing ≠ [] →
    ∃ fault, IsShortage fault ∧ deserialize front = .error fault
  /-- What is accepted is refused with more behind it. -/
  lengthened : ∀ bytes more value, deserialize bytes = .ok value → more ≠ [] →
    deserialize (bytes ++ more) = .error (.trailingBytes more.length)

private theorem finish_of_more (more : start.rest ≠ []) :
    finish start = .error (.trailingBytes start.rest.length) start := by
  have left : ¬ start.isEmpty = true := by
    rw [isEmpty, start.remaining_eq, beq_iff_eq, List.length_eq_zero_iff]
    exact more
  rw [finish, if_neg left, start.remaining_eq]

/-- A spelling with more behind it is refused for what is behind. -/
theorem Reads.run_finish_append {spells : α → List UInt8 → Prop} (reads : read.Reads spells)
    {value : α} {bytes more : List UInt8} (spelled : spells value bytes) (some : more ≠ []) :
    run (do
      let value ← read
      finish
      return value) (bytes ++ more) = .error (.trailingBytes more.length) := by
  let whole := ofList (bytes ++ more)
  have taken : whole.Takes bytes (whole.advance bytes.length) :=
    takes_advance (List.prefix_append bytes more)
  have behind : (whole.advance bytes.length).rest = more := List.drop_left
  have left : (whole.advance bytes.length).rest ≠ [] := behind.symm ▸ some
  rw [run, bind_of_ok ((reads _ _ _).mpr ⟨bytes, spelled, taken⟩),
    bind_of_error (finish_of_more left), behind]

/-- **A guarded reader of a written form** makes a format that stands up to any bytes. -/
theorem Guarded.strict {spells : α → List UInt8 → Prop} (guarded : Guarded read)
    (reads : read.Reads spells) :
    Strict read (run (do
      let value ← read
      finish
      return value)) where
  inside bytes := guarded.inside (ofList bytes)
  malformed bytes fault failed := by
    rw [run] at failed
    cases outcome : read (ofList bytes) with
    | error other reached =>
        rw [bind_of_error outcome] at failed
        cases failed
        exact guarded.malformed _ _ _ outcome
    | ok value reached =>
        rw [bind_of_ok outcome] at failed
        by_cases nothing : reached.rest = []
        · have ended : finish reached = .ok () reached := finish_eq_ok_iff.mpr ⟨nothing, rfl⟩
          rw [bind_of_ok ended] at failed
          cases failed
        · rw [bind_of_error (finish_of_more nothing)] at failed
          cases failed
          rfl
  shortened front missing value accepted some := by
    obtain ⟨_, whole⟩ := run_eq_ok_iff.mp accepted
    obtain ⟨found, reached, done, rest⟩ := bind_eq_ok_iff.mp whole
    obtain ⟨_, _, ended, _⟩ := bind_eq_ok_iff.mp rest
    obtain ⟨nothing, _⟩ := finish_eq_ok_iff.mp ended
    rcases guarded.shortened _ _ _ _ _ lacks_ofList done with ⟨earlier, _, lacks⟩ | ⟨fault, place,
      failed, shortage⟩
    · have split := lacks.1
      rw [nothing] at split
      exact (some (List.append_eq_nil_iff.mp split.symm).2).elim
    · exact ⟨fault, shortage, run_finish_of_error failed⟩
  lengthened bytes more value accepted some :=
    reads.run_finish_append (reads.run_finish_eq_ok_iff.mp accepted) some

end Reader

namespace CompactLength

open Reader

/-- Reading a length is guarded. -/
theorem guarded_read : Guarded read := by
  have within (total place steps : Nat) : Guarded (readWithin total place steps) := by
    induction steps generalizing total place with
    | zero => exact guarded_throw rfl
    | succ steps ih =>
        refine .bind guarded_byte fun next => .refuse ?_ rfl
        exact .ite (.ite (guarded_pure _) (guarded_throw rfl)) (ih _ _)
  exact within 0 0 maxBytes

/-- Reading a count is guarded. -/
theorem guarded_readCount (what : String) (elementSize : Nat) :
    Guarded (readCount what elementSize) :=
  .bind guarded_read fun _ => .backed (guarded_pure _)

end CompactLength

end LedgerClient
