import LedgerClient.Proofs.Wire.CursorRun

/-! # Readers that note their counts

A noted reader does what a reader does and notes each count that it accepts, with the place
behind it and whether so many elements were then read (`LedgerClient.NotedReader`). It *tracks*
a reader (`LedgerClient.NotedReader.Tracks`) when it ends as that reader does and each count it
notes is backed by what is left there: so many elements of the fewest bytes are there, and
elements that all take the same number of bytes are read without fail. Noted readers that are put
together track the readers that are put together in the same way.
-/

namespace LedgerClient

open Reader Cursor

/-- What comes behind its number in a transaction. -/
inductive Part where
  | signatures
  | keys
  | instructions
  | accounts
  | data
  | lookups
  | writable
  | readonly
deriving DecidableEq

/-- The fewest bytes that an element takes. -/
def Part.size : Part → Nat
  | .signatures => 64
  | .keys => 32
  | .instructions => 3
  | .lookups => 34
  | .accounts | .data | .writable | .readonly => 1

private theorem Part.size_pos (part : Part) : 0 < part.size := by cases part <;> decide

/-- Whether no element takes more. -/
def Part.isFixed : Part → Bool
  | .instructions | .lookups => false
  | _ => true

/-- A count that was accepted. -/
structure Acceptance where
  part : Part
  count : Nat
  /-- The place behind the count, where space is set aside for the elements. -/
  place : Cursor
  /-- Whether all elements were then read. -/
  isComplete : Bool

namespace Acceptance

/-- What is counted, and how many of it. -/
def entry (note : Acceptance) : Part × Nat := (note.part, note.count)

/-- **A count that the rest of its buffer backs.** -/
structure Backed (note : Acceptance) (bytes : List UInt8) : Prop where
  inside : note.place.InBuffer bytes
  enough : note.count * note.part.size ≤ note.place.remaining
  /-- Space is set aside for no more elements than the rest can hold. -/
  bounded : note.count ≤ note.place.remaining / note.part.size
  /-- Elements of one size are all there. -/
  complete : note.part.isFixed = true → note.isComplete = true

end Acceptance

/-- The counts accepted on the way, and what a reader answers. -/
def NotedReader (α : Type) : Type :=
  Cursor → List Acceptance × EStateM.Result LedgerError Cursor α

/-- Whether a read succeeded. -/
def Reader.isFound {α : Type} : EStateM.Result LedgerError Cursor α → Bool
  | .ok _ _ => true
  | .error _ _ => false

namespace NotedReader

variable {α β : Type} {start middle reached : Cursor}

/-- The notes of two steps come one after another. -/
instance : Monad NotedReader where
  pure value := fun start => ([], .ok value start)
  bind first next := fun start =>
    match first start with
    | (notes, .ok found middle) => (notes ++ (next found middle).1, (next found middle).2)
    | (notes, .error fault reached) => (notes, .error fault reached)

/-- The reader without the notes. -/
def erased (noted : NotedReader α) : Reader α := fun start => (noted start).2

/-- A read that accepts no count. -/
def plain (read : Reader α) : NotedReader α := fun start => ([], read start)

/-- Read a number and then so many elements, and note how that went if the number is accepted. -/
def counted (part : Part) (number : Reader Nat) (elements : Nat → NotedReader α) :
    NotedReader α := fun start =>
  match number start with
  | .error fault reached => ([], .error fault reached)
  | .ok count place =>
    let (notes, outcome) := elements count place
    (⟨part, count, place, isFound outcome⟩ :: notes, outcome)

/-- Read `count` values one after the other. -/
def times (noted : NotedReader α) : Nat → NotedReader (List α)
  | 0 => return []
  | count + 1 => do
    let value ← noted
    let others ← times noted count
    return value :: others

private theorem bind_eq_of_ok {noted : NotedReader α} {next : α → NotedReader β} {found : α}
    (done : (noted start).2 = .ok found middle) : (noted >>= next) start =
      ((noted start).1 ++ (next found middle).1, (next found middle).2) := by
  change (match noted start with
    | (notes, .ok found middle) => (notes ++ (next found middle).1, (next found middle).2)
    | (notes, .error fault reached) => (notes, .error fault reached)) = _
  generalize noted start = answer at done
  obtain ⟨notes, outcome⟩ := answer
  cases done
  rfl

private theorem bind_eq_of_error {noted : NotedReader α} {next : α → NotedReader β}
    {fault : LedgerError} (failed : (noted start).2 = .error fault reached) :
    (noted >>= next) start = ((noted start).1, .error fault reached) := by
  change (match noted start with
    | (notes, .ok found middle) => (notes ++ (next found middle).1, (next found middle).2)
    | (notes, .error fault reached) => (notes, .error fault reached)) = _
  generalize noted start = answer at failed
  obtain ⟨notes, outcome⟩ := answer
  cases failed
  rfl

/-- **A noted reader tracks a reader.** -/
structure Tracks (noted : NotedReader α) (read : Reader α)
    (tallies : α → List (Part × Nat) → Prop) : Prop where
  guarded : Guarded read
  erases : noted.erased = read
  backed : ∀ start bytes, start.InBuffer bytes → ∀ note ∈ (noted start).1, note.Backed bytes
  /-- What is noted on the way to a value are the counts of that value. -/
  tallied : ∀ start value reached, read start = .ok value reached →
    tallies value ((noted start).1.map Acceptance.entry)

section Tracking

variable {noted : NotedReader α} {read : Reader α} {tallies other : α → List (Part × Nat) → Prop}

private theorem Tracks.apply_snd (tracks : Tracks noted read tallies) (start : Cursor) :
    (noted start).2 = read start := congrFun tracks.erases start

/-- Tallies that follow from those that are tracked are tracked as well. -/
theorem Tracks.congr (tracks : Tracks noted read tallies)
    (same : ∀ value tally, tallies value tally → other value tally) : Tracks noted read other :=
  ⟨tracks.guarded, tracks.erases, tracks.backed, fun start value reached done =>
    same _ _ (tracks.tallied start value reached done)⟩

/-- A reader without counts has no notes. -/
theorem tracks_plain (guarded : Guarded read) : Tracks (plain read) read fun value tally =>
    (∃ start reached, read start = .ok value reached) ∧ tally = [] where
  guarded := guarded
  erases := rfl
  backed _ _ _ _ member := (List.not_mem_nil member).elim
  tallied start _ reached done := ⟨⟨start, reached, done⟩, rfl⟩

/-- Reading nothing has no notes. -/
theorem tracks_pure (value : α) :
    Tracks (pure value) (pure value) fun found tally => found = value ∧ tally = [] where
  guarded := guarded_pure value
  erases := rfl
  backed _ _ _ _ member := (List.not_mem_nil member).elim
  tallied _ _ _ done := ⟨(pure_eq_ok_iff.mp done).1, rfl⟩

/-- **One after the other**, noted readers note one after the other. -/
theorem Tracks.bind {next : α → NotedReader β} {reads : α → Reader β}
    {later : α → β → List (Part × Nat) → Prop} (first : Tracks noted read tallies)
    (second : ∀ found, Tracks (next found) (reads found) (later found)) :
    Tracks (noted >>= next) (read >>= reads) fun value tally => ∃ found front back,
      tallies found front ∧ later found value back ∧ tally = front ++ back where
  guarded := first.guarded.bind fun found => (second found).guarded
  erases := by
    funext start
    rw [erased]
    cases outcome : read start with
    | ok found middle =>
        rw [bind_eq_of_ok ((first.apply_snd start).trans outcome), bind_of_ok outcome,
          (second found).apply_snd]
    | error fault middle =>
        rw [bind_eq_of_error ((first.apply_snd start).trans outcome), bind_of_error outcome]
  backed start bytes inside note member := by
    cases outcome : read start with
    | ok found middle =>
        rw [bind_eq_of_ok ((first.apply_snd start).trans outcome)] at member
        rcases List.mem_append.mp member with before | behind
        · exact first.backed start bytes inside note before
        · obtain ⟨taken, reached⟩ := first.guarded.inside start
          rw [endOf_of_ok outcome] at reached
          exact (second found).backed middle bytes (inside.of_takes reached) note behind
    | error fault middle =>
        rw [bind_eq_of_error ((first.apply_snd start).trans outcome)] at member
        exact first.backed start bytes inside note member
  tallied start value reached done := by
    obtain ⟨found, middle, before, behind⟩ := bind_eq_ok_iff.mp done
    rw [bind_eq_of_ok ((first.apply_snd start).trans before), List.map_append]
    exact ⟨found, _, _, first.tallied _ _ _ before, (second found).tallied _ _ _ behind, rfl⟩

private theorem counted_eq_of_ok {part : Part} {number : Reader Nat}
    {elements : Nat → NotedReader α} {count : Nat} (accepted : number start = .ok count middle) :
    counted part number elements start =
      (⟨part, count, middle, isFound (elements count middle).2⟩ :: (elements count middle).1,
        (elements count middle).2) := by
  rw [counted, accepted]

private theorem counted_eq_of_error {part : Part} {number : Reader Nat}
    {elements : Nat → NotedReader α} {fault : LedgerError}
    (refused : number start = .error fault reached) :
    counted part number elements start = ([], .error fault reached) := by
  rw [counted, refused]

/-- A number is accepted only if the rest can hold so many elements. -/
def Checks (part : Part) (number : Reader Nat) : Prop :=
  ∀ start count reached, number start = .ok count reached →
    count * part.size ≤ reached.rest.length

/-- Elements that are read without fail where there is room for them. -/
def Ensured (part : Part) (reads : Nat → Reader α) : Prop :=
  part.isFixed = true → ∀ count (place : Cursor), count * part.size ≤ place.rest.length →
    ∃ value reached, reads count place = .ok value reached

/-- **Elements behind their number** are backed if the number is checked. -/
theorem tracks_counted {part : Part} {number : Reader Nat} {elements : Nat → NotedReader α}
    {reads : Nat → Reader α} {later : Nat → α → List (Part × Nat) → Prop}
    (guarded : Guarded number) (checks : Checks part number) (ensured : Ensured part reads)
    (each : ∀ count, Tracks (elements count) (reads count) (later count)) :
    Tracks (counted part number elements) (number >>= reads) fun value tally =>
      ∃ count back, later count value back ∧ tally = (part, count) :: back where
  guarded := guarded.bind fun count => (each count).guarded
  erases := by
    funext start
    rw [erased]
    cases outcome : number start with
    | ok count middle =>
        rw [counted_eq_of_ok outcome, bind_of_ok outcome]
        exact (each count).apply_snd middle
    | error fault reached => rw [counted_eq_of_error outcome, bind_of_error outcome]
  backed start bytes inside note member := by
    cases outcome : number start with
    | error fault reached =>
        rw [counted_eq_of_error outcome] at member
        exact (List.not_mem_nil member).elim
    | ok count middle =>
        rw [counted_eq_of_ok outcome] at member
        obtain ⟨taken, reached⟩ := guarded.inside start
        rw [endOf_of_ok outcome] at reached
        have behind := inside.of_takes reached
        rcases List.mem_cons.mp member with rfl | within
        · have enough := checks start count middle outcome
          have room : count * part.size ≤ middle.remaining := by rwa [middle.remaining_eq]
          refine ⟨behind, room, (Nat.le_div_iff_mul_le part.size_pos).mpr room, fun fixed => ?_⟩
          obtain ⟨value, reached, done⟩ := ensured fixed count middle enough
          change isFound (elements count middle).2 = true
          rw [(each count).apply_snd, done]
          rfl
        · exact (each count).backed middle bytes behind note within
  tallied start value reached done := by
    obtain ⟨count, middle, accepted, found⟩ := bind_eq_ok_iff.mp done
    rw [counted_eq_of_ok accepted, List.map_cons]
    exact ⟨count, _, (each count).tallied _ _ _ found, rfl⟩

end Tracking

end NotedReader

namespace Reader

variable {α : Type} {read : Reader α}

/-- Values are read behind others as they are read alone. -/
theorem timesOnto_eq (found : List α) (count : Nat) : timesOnto read found count =
    times count read >>= fun values => pure (found.reverse ++ values) := by
  induction count generalizing found with
  | zero =>
      funext start
      change EStateM.Result.ok found.reverse start = .ok (found.reverse ++ []) start
      rw [List.append_nil]
  | succ count ih =>
      rw [times, timesOnto_succ, timesOnto_succ]
      simp only [ih, bind_assoc, pure_bind, List.reverse_cons, List.reverse_nil, List.append_assoc,
        List.nil_append]

private theorem times_succ (count : Nat) : times (count + 1) read =
    read >>= fun value => times count read >>= fun values => pure (value :: values) := by
  rw [times, timesOnto_succ]
  simp only [timesOnto_eq, List.reverse_singleton, List.singleton_append]

/-- Fields are read without fail where there is room for them. -/
theorem exists_times_fixed {width count : Nat} {start : Cursor}
    (enough : count * width ≤ start.rest.length) :
    ∃ fields reached, times count (fixed width) start = .ok fields reached := by
  induction count generalizing start with
  | zero => exact ⟨[], start, rfl⟩
  | succ count ih =>
      rw [Nat.succ_mul] at enough
      obtain ⟨field, front⟩ := exists_window (show width ≤ start.rest.length by omega)
      have first := (looks_fixed width).enough start field front
      have left : (start.advance width).rest.length = start.rest.length - width :=
        List.length_drop
      obtain ⟨fields, reached, others⟩ := @ih (start.advance width) (by omega)
      refine ⟨field :: fields, reached, ?_⟩
      rw [times_succ, bind_of_ok first, bind_of_ok others]
      rfl

/-- There is something to take where enough is left. -/
theorem exists_take {count : Nat} {start : Cursor} (enough : count ≤ start.rest.length) :
    ∃ bytes reached, take count start = .ok bytes reached := by
  obtain ⟨window, front⟩ := exists_window enough
  exact ⟨_, _, (looks_take count).enough start window front⟩

end Reader

namespace NotedReader

variable {α β : Type} {noted : NotedReader α} {read : Reader α} {after : α → NotedReader β}
  {reads : α → Reader β} {entries : α → List (Part × Nat)} {counts : β → List (Part × Nat)}
  {front : List (Part × Nat)}

/-- **Values one after the other** are noted one after the other. -/
theorem Tracks.times (each : Tracks noted read fun value tally => tally = entries value)
    (count : Nat) : Tracks (noted.times count) (Reader.times count read) fun values tally =>
      values.length = count ∧ tally = values.flatMap entries := by
  induction count with
  | zero =>
      refine (tracks_pure []).congr ?_
      rintro _ _ ⟨rfl, rfl⟩
      exact ⟨rfl, rfl⟩
  | succ count ih =>
      rw [Reader.times_succ]
      refine (each.bind fun value => ih.bind fun others => tracks_pure _).congr ?_
      rintro _ _ ⟨value, _, _, rfl, ⟨others, _, _, ⟨length, rfl⟩, ⟨rfl, rfl⟩, rfl⟩, rfl⟩
      refine ⟨congrArg (· + 1) length, ?_⟩
      rw [List.flatMap_cons, List.append_nil]

/-- **A list behind its length**, whose elements need not all take the same number of bytes. -/
theorem Tracks.listed {part : Part} {number : Reader Nat}
    (each : Tracks noted read fun value tally => tally = entries value) (guarded : Guarded number)
    (checks : Checks part number) (varies : part.isFixed = false) :
    Tracks (counted part number (NotedReader.times noted))
      (number >>= fun count => Reader.times count read)
      fun values tally => tally = (part, values.length) :: values.flatMap entries := by
  have ensured : Ensured part fun count => Reader.times count read := by
    intro fixed
    rw [varies] at fixed
    cases fixed
  refine (tracks_counted guarded checks ensured each.times).congr ?_
  rintro values _ ⟨_, _, ⟨rfl, rfl⟩, rfl⟩
  rfl

/-! ### One part of a value after the other -/

/-- Behind what is noted already, a reader goes on with its counts. -/
theorem Tracks.next (first : Tracks noted read fun value tally => tally = entries value)
    (second : ∀ found, Tracks (after found) (reads found) fun value tally =>
      (front ++ entries found) ++ tally = counts value) :
    Tracks (noted >>= after) (read >>= reads) fun value tally => front ++ tally = counts value := by
  refine (first.bind second).congr ?_
  rintro value _ ⟨found, _, back, rfl, same, rfl⟩
  rwa [← List.append_assoc]

/-- A reader without counts in front changes no tally. -/
theorem Tracks.plainNext (guarded : Guarded read)
    (second : ∀ found, Tracks (after found) (reads found) fun value tally =>
      front ++ tally = counts value) :
    Tracks (plain read >>= after) (read >>= reads) fun value tally =>
      front ++ tally = counts value := by
  refine ((tracks_plain guarded).bind second).congr ?_
  rintro value _ ⟨_, _, back, ⟨_, rfl⟩, same, rfl⟩
  exact same

/-- At the end all counts are noted. -/
theorem Tracks.last {value : β} (all : front = counts value) :
    Tracks (pure value) (pure value) fun found tally => front ++ tally = counts found := by
  refine (tracks_pure value).congr ?_
  rintro _ _ ⟨rfl, rfl⟩
  rwa [List.append_nil]

end NotedReader

end LedgerClient
