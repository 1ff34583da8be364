import LedgerClient.Message.Wire
import LedgerClient.Proofs.Message.AddressTables

/-! # Resolving is one safe step

Tables are attached and lookups resolved in place, by calls that change a message or fail.
Every call is whole: one that fails has changed nothing
(`LedgerClient.TableCall.inPlace_eq`). A message only goes from waiting to resolved,
and its own keys stay what they were (`LedgerClient.Message.Stage`). So the bytes and the
privileges of a message do not depend on what was called
(`LedgerClient.Message.safelyResolved_run`).
-/

namespace LedgerClient

/-- A call that changes a message and may fail. What it changed before it failed stays changed. -/
abbrev Resolving := EStateM LedgerError Message

namespace AddressTables

/-- Load lookups one after the other, behind what has been loaded so far. -/
def gather (tables : AddressTables) :
    List TableLookup → List PublicKey × List PublicKey →
      Except LedgerError (List PublicKey × List PublicKey)
  | [], gathered => .ok gathered
  | lookup :: rest, (writable, readonly) => do
    let (moreWritable, moreReadonly) ← lookup.load tables
    gather tables rest (writable ++ moreWritable, readonly ++ moreReadonly)

private theorem gather_eq (tables : AddressTables) (lookups : List TableLookup)
    (writable readonly : List PublicKey) :
    tables.gather lookups (writable, readonly) =
      lookups.mapM (·.load tables) >>= fun loaded =>
        .ok (writable ++ (loaded.map Prod.fst).flatten,
          readonly ++ (loaded.map Prod.snd).flatten) := by
  induction lookups generalizing writable readonly with
  | nil => simp only [gather, List.mapM_nil, pure_bind, List.map_nil, List.flatten_nil,
      List.append_nil]
  | cons lookup rest ih =>
      rw [gather, List.mapM_cons, bind_assoc]
      congr 1
      funext taken
      obtain ⟨moreWritable, moreReadonly⟩ := taken
      simp only [ih, bind_assoc, pure_bind, List.map_cons, List.flatten_cons, List.append_assoc]

end AddressTables

namespace Message

/-- What the lookups give, if every table and index is there. -/
def gathered (message : Message) : Except LedgerError (List PublicKey × List PublicKey) :=
  match message.lookups, message.tables with
  | [], _ => .ok ([], [])
  | first :: _, none => .error (.missingAddressTable first.table.text)
  | lookups, some tables => tables.gather lookups ([], [])

private theorem resolveLookups_eq_gathered {message : Message} : message.resolveLookups =
    if message.isResolved then .ok message
    else
      match message.gathered with
      | .error fault => .error fault
      | .ok (writable, readonly) =>
          .ok { message with
            keys := message.keys ++ writable ++ readonly, isResolved := true } := by
  obtain ⟨version, header, keys, blockhash, instructions, lookups, tables, isResolved⟩ := message
  cases isResolved with
  | true => rfl
  | false =>
      cases lookups with
      | nil => simp [resolveLookups, gathered]
      | cons first rest =>
          cases tables with
          | none => rfl
          | some tables =>
              rw [resolveLookups_eq rfl rfl]
              simp only [gathered, AddressTables.gather_eq]
              cases (first :: rest).mapM (·.load tables) <;> rfl

end Message

/-- A call for the tables of a message. -/
inductive TableCall where
  | attach (tables : AddressTables)
  | resolve

namespace TableCall

/-- What a call of a message gives. -/
def outcome : TableCall → Message → Except LedgerError Message
  | attach tables, message => message.setAddressTables tables
  | resolve, message => message.resolveLookups

/-- Resolve by writing to the message. What the lookups take is gathered on the side, and
the message is written to when all of it is there. -/
def resolveInPlace : Resolving Unit := do
  let message ← get
  unless message.isResolved do
    match message.gathered with
    | .error fault => throw fault
    | .ok (writable, readonly) =>
      modify fun message => { message with keys := message.keys ++ writable }
      modify fun message => { message with keys := message.keys ++ readonly }
      modify fun message => { message with isResolved := true }

/-- A call that writes to a message step by step. -/
def inPlace : TableCall → Resolving Unit
  | attach tables => do
    if (← get).tables.isSome then throw .addressTablesAlreadySet
    modify fun message => { message with tables := some tables }
  | resolve => resolveInPlace

/-- What a call leaves behind. -/
def after (call : TableCall) (message : Message) : Message :=
  match call.inPlace message with
  | .ok _ next => next
  | .error _ next => next

variable {call : TableCall} {message next : Message} {fault : LedgerError}

private theorem get_bind (next : Message → Resolving Unit) :
    (get >>= next) message = next message message := rfl

/-- **A call is whole.** It leaves behind the message that it answers with, or the one that it
found. -/
theorem inPlace_eq : call.inPlace message =
    match call.outcome message with
    | .ok next => .ok () next
    | .error fault => .error fault message := by
  cases call with
  | attach contents =>
      obtain ⟨version, header, keys, blockhash, instructions, lookups, tables, isResolved⟩ :=
        message
      cases tables <;> rfl
  | resolve =>
      rw [outcome, Message.resolveLookups_eq_gathered, inPlace, resolveInPlace, get_bind]
      cases message.isResolved with
      | true => rfl
      | false => cases message.gathered <;> rfl

end TableCall

namespace TableLookup

/-- The address that an index of a lookup stands for in some tables. -/
def addressAt (lookup : TableLookup) (tables : AddressTables) (index : UInt8) : Option PublicKey :=
  (tables.find? lookup.table).bind (·[index.toNat]?)

variable {lookup : TableLookup} {tables : AddressTables}

private theorem map_addressAt_of_loads {loaded : List PublicKey × List PublicKey}
    (loads : lookup.load tables = .ok loaded) :
    lookup.writable.map (lookup.addressAt tables) = loaded.1.map some ∧
      lookup.readonly.map (lookup.addressAt tables) = loaded.2.map some := by
  obtain ⟨addresses, found, writables, readonlies⟩ := load_eq_ok_iff.mp loads
  have at_ (index : UInt8) : lookup.addressAt tables index = addresses[index.toNat]? := by
    rw [addressAt, found, Option.bind_some]
  constructor
  · rw [← List.forall₂_eq_eq_eq, List.forall₂_map_left_iff, List.forall₂_map_right_iff]
    simpa only [at_] using writables
  · rw [← List.forall₂_eq_eq_eq, List.forall₂_map_left_iff, List.forall₂_map_right_iff]
    simpa only [at_] using readonlies

/-- A lookup loads exactly if its table is there and no index is beyond the end. -/
theorem exists_loaded_iff : (∃ loaded, lookup.load tables = .ok loaded) ↔
    ∃ addresses, tables.find? lookup.table = some addresses ∧
      ∀ index ∈ lookup.writable ++ lookup.readonly, index.toNat < addresses.length := by
  simp only [load_eq_ok_iff]
  constructor
  · rintro ⟨loaded, addresses, found, writables, readonlies⟩
    refine ⟨addresses, found, ?_⟩
    intro index member
    rcases List.mem_append.mp member with writable | readonly
    · obtain ⟨key, _, at_⟩ := Sequence.exists_of_mem_left writables writable
      exact (List.getElem?_eq_some_iff.mp at_).1
    · obtain ⟨key, _, at_⟩ := Sequence.exists_of_mem_left readonlies readonly
      exact (List.getElem?_eq_some_iff.mp at_).1
  · rintro ⟨addresses, found, inside⟩
    have each (indices : List UInt8) (listed : ∀ index ∈ indices, index.toNat < addresses.length) :
        ∃ keys, List.Forall₂ (fun (index : UInt8) key => addresses[index.toNat]? = some key)
          indices keys :=
      Sequence.exists_forall₂ fun index member =>
        ⟨_, List.getElem?_eq_getElem (listed index member)⟩
    obtain ⟨writable, writables⟩ := each lookup.writable fun index member =>
      inside index (List.mem_append_left _ member)
    obtain ⟨readonly, readonlies⟩ := each lookup.readonly fun index member =>
      inside index (List.mem_append_right _ member)
    exact ⟨(writable, readonly), addresses, found, writables, readonlies⟩

end TableLookup

namespace AddressTables

variable {tables : AddressTables} {lookups : List TableLookup}
  {loaded : List (List PublicKey × List PublicKey)}

/-- Tables have what lookups name. -/
def Cover (tables : AddressTables) (lookups : List TableLookup) : Prop :=
  ∀ lookup ∈ lookups, ∃ addresses, tables.find? lookup.table = some addresses ∧
    ∀ index ∈ lookup.writable ++ lookup.readonly, index.toNat < addresses.length

/-- All lookups can be loaded exactly if the tables cover them. -/
theorem exists_loaded_iff_cover :
    (∃ loaded, lookups.mapM (·.load tables) = .ok loaded) ↔ tables.Cover lookups := by
  simp only [Outcome.mapM_eq_ok_iff, Cover, ← TableLookup.exists_loaded_iff]
  constructor
  · rintro ⟨loaded, each⟩ lookup member
    obtain ⟨taken, _, loads⟩ := Sequence.exists_of_mem_left each member
    exact ⟨taken, loads⟩
  · intro each
    exact Sequence.exists_forall₂ each

/-- Where nothing is attached, only no lookups load. -/
theorem eq_nil_of_loads_empty (loads : lookups.mapM (·.load empty) = .ok loaded) :
    lookups = [] := by
  cases lookups with
  | nil => rfl
  | cons lookup rest =>
      obtain ⟨addresses, found, _⟩ := exists_loaded_iff_cover.mp ⟨loaded, loads⟩ lookup
        List.mem_cons_self
      cases found

/-- What is loaded are the addresses that the indices stand for, in order. -/
theorem map_flatten_of_loads (loads : lookups.mapM (·.load tables) = .ok loaded) :
    (loaded.map Prod.fst).flatten.map some =
        lookups.flatMap (fun lookup => lookup.writable.map (lookup.addressAt tables)) ∧
      (loaded.map Prod.snd).flatten.map some =
        lookups.flatMap fun lookup => lookup.readonly.map (lookup.addressAt tables) := by
  have each := Outcome.mapM_eq_ok_iff.mp loads
  clear loads
  induction each with
  | nil => exact ⟨rfl, rfl⟩
  | cons head _ ih =>
      obtain ⟨writable, readonly⟩ := TableLookup.map_addressAt_of_loads head
      simp only [List.map_cons, List.flatten_cons, List.map_append, List.flatMap_cons, ih.1, ih.2,
        writable, readonly, and_self]

end AddressTables

namespace Message

variable {initial message : Message} {call : TableCall}

/-- A message resolves when its lookups load, and gets what they load. -/
theorem resolveLookups_eq_ok_iff {next : Message} (waiting : message.isResolved = false) :
    message.resolveLookups = .ok next ↔
      ∃ loaded, message.lookups.mapM (·.load (message.tables.getD .empty)) = .ok loaded ∧
        message.extended loaded = next := by
  cases attached : message.tables with
  | some tables =>
      simp only [resolveLookups_eq waiting attached, Outcome.bind_eq_ok_iff,
        Outcome.pure_eq_ok_iff, Option.getD_some]
  | none =>
      cases listed : message.lookups with
      | nil =>
          have alone : message.extended [] = { message with isResolved := true } := by
            simp only [extended, List.map_nil, List.flatten_nil, List.append_nil]
          simp [resolveLookups, waiting, listed, alone]
      | cons first rest =>
          rw [resolveLookups, waiting, if_neg Bool.false_ne_true, listed, attached]
          refine iff_of_false Outcome.throw_ne_ok ?_
          rintro ⟨loaded, loads, _⟩
          cases AddressTables.eq_nil_of_loads_empty loads

private theorem setAddressTables_eq_ok_iff {tables : AddressTables} {next : Message} :
    message.setAddressTables tables = .ok next ↔
      message.tables = none ∧ { message with tables := some tables } = next := by
  unfold setAddressTables
  split
  case h_1 attached =>
    rw [attached]
    exact iff_of_false Outcome.throw_ne_ok fun ⟨impossible, _⟩ => nomatch impossible
  case h_2 unset => simp [unset]

/-- **How a message stands** to the one that the calls began with. -/
inductive Stage (initial : Message) : Message → Prop where
  | waiting (tables : Option AddressTables) : Stage initial { initial with tables := tables }
  | resolved {tables : Option AddressTables} {loaded : List (List PublicKey × List PublicKey)}
      (loads : initial.lookups.mapM (·.load (tables.getD .empty)) = .ok loaded) :
      Stage initial { initial.extended loaded with tables := tables }

/-- **What a call can do**: nothing, attach tables where there are none, or resolve a message
that waits for it. -/
theorem after_cases (call : TableCall) (message : Message) : call.after message = message ∨
    (message.tables = none ∧
      ∃ tables, call.after message = { message with tables := some tables }) ∨
    (message.isResolved = false ∧
      ∃ loaded, message.lookups.mapM (·.load (message.tables.getD .empty)) = .ok loaded ∧
        call.after message = message.extended loaded) := by
  rw [TableCall.after, TableCall.inPlace_eq]
  cases answer : call.outcome message with
  | error fault => exact .inl rfl
  | ok next =>
      cases call with
      | attach tables =>
          obtain ⟨unset, rfl⟩ := setAddressTables_eq_ok_iff.mp answer
          exact .inr (.inl ⟨unset, tables, rfl⟩)
      | resolve =>
          cases resolved : message.isResolved with
          | true =>
              rw [TableCall.outcome, resolveLookups, resolved] at answer
              cases answer
              exact .inl rfl
          | false =>
              obtain ⟨loaded, loads, rfl⟩ := (resolveLookups_eq_ok_iff resolved).mp answer
              exact .inr (.inr ⟨rfl, loaded, loads, rfl⟩)

/-- The message after some calls. -/
def afterCalls (message : Message) (calls : List TableCall) : Message :=
  calls.foldl (fun message call => call.after message) message

/-- What every call keeps, all calls keep. -/
theorem afterCalls_induction (kept : Message → Prop) (start : kept message)
    (step : ∀ message call, kept message → kept (TableCall.after call message))
    (calls : List TableCall) : kept (message.afterCalls calls) := by
  induction calls generalizing message with
  | nil => exact start
  | cons call rest ih => exact ih (step message call start)

/-- **Every call leads to a later stage.** -/
theorem Stage.after (stage : Stage initial message) (call : TableCall) :
    Stage initial (call.after message) := by
  rcases after_cases call message with same | ⟨unset, contents, attaches⟩ |
    ⟨waits, loaded, loads, resolves⟩
  · rwa [same]
  · rw [attaches]
    cases stage with
    | waiting tables => exact .waiting (some contents)
    | @resolved _ loaded loads =>
        -- Nothing was attached, so there are no lookups, and these load from any tables.
        cases unset
        have none := AddressTables.eq_nil_of_loads_empty loads
        have still : initial.lookups.mapM (·.load ((some contents).getD .empty)) =
            .ok loaded := by
          rw [none] at loads ⊢
          exact loads
        exact .resolved still
  · rw [resolves]
    cases stage with
    | waiting tables => exact .resolved loads
    | resolved _ => cases waits

/-- Any number of calls lead to a later stage. -/
theorem Stage.afterCalls (stage : Stage initial message) (calls : List TableCall) :
    Stage initial (message.afterCalls calls) :=
  afterCalls_induction (Stage initial) stage (fun _ call stage => stage.after call) calls

namespace Stage

/-- A stage differs from the message at first in keys, tables and mark alone. -/
theorem eq_initial (stage : Stage initial message) :
    message = { initial with
      keys := message.keys, tables := message.tables, isResolved := message.isResolved } := by
  cases stage <;> rfl

private theorem staticCount_eq (fresh : initial.isResolved = false)
    (stage : Stage initial message) : message.staticCount = initial.staticCount := by
  cases stage with
  | waiting tables => rfl
  | resolved loads => exact staticCount_extended fresh loads

private theorem staticKeys_eq (fresh : initial.isResolved = false) (stage : Stage initial message) :
    message.staticKeys = initial.staticKeys := by
  have own : initial.staticCount ≤ initial.keys.length := by
    rw [staticCount, fresh]
    exact Nat.le_refl _
  rw [staticKeys, stage.staticCount_eq fresh, staticKeys]
  cases stage with
  | waiting tables => rfl
  | resolved loads =>
      rw [extended, List.append_assoc]
      exact List.take_append_of_le_length own

/-- No stage changes what is sent. -/
theorem serialize_eq (fresh : initial.isResolved = false) (stage : Stage initial message) :
    message.serialize = initial.serialize := by
  have keys := stage.staticKeys_eq fresh
  rw [serialize, serialize, keys, stage.eq_initial]
  rfl

private theorem isWritable_eq (fresh : initial.isResolved = false) (stage : Stage initial message)
    (index : Nat) : message.isWritable index = initial.isWritable index := by
  rw [isWritable, isWritable, stage.staticCount_eq fresh, stage.eq_initial]
  rfl

private theorem keys_of_waiting (stage : Stage initial message)
    (waiting : message.isResolved = false) : message.keys = initial.keys := by
  cases stage with
  | waiting tables => rfl
  | resolved loads => cases waiting

/-- A resolved stage has the keys that its tables give behind its own. -/
theorem keys_of_resolved (fresh : initial.isResolved = false) (stage : Stage initial message)
    (resolved : message.isResolved = true) :
    ∃ loaded, message.lookups.mapM (·.load (message.tables.getD .empty)) = .ok loaded ∧
      message.keys =
        initial.keys ++ (loaded.map Prod.fst).flatten ++ (loaded.map Prod.snd).flatten := by
  cases stage with
  | waiting tables =>
      rw [fresh] at resolved
      cases resolved
  | resolved loads => exact ⟨_, loads, rfl⟩

end Stage

/-- Tables that are attached stay. -/
theorem tables_afterCalls {tables : AddressTables} (attached : message.tables = some tables)
    (calls : List TableCall) : (message.afterCalls calls).tables = some tables := by
  refine afterCalls_induction (fun message => message.tables = some tables) attached ?_ calls
  intro message call attached
  rcases after_cases call message with same | ⟨unset, _⟩ | ⟨_, loaded, _, resolves⟩
  · rwa [same]
  · rw [attached] at unset
    cases unset
  · rw [resolves]
    exact attached

/-- A resolved message keeps its keys. -/
theorem keys_afterCalls (resolved : message.isResolved = true) (calls : List TableCall) :
    (message.afterCalls calls).isResolved = true ∧
      (message.afterCalls calls).keys = message.keys := by
  refine afterCalls_induction
    (fun next => next.isResolved = true ∧ next.keys = message.keys) ⟨resolved, rfl⟩ ?_ calls
  rintro next call ⟨resolved, keys⟩
  rcases after_cases call next with same | ⟨_, tables, attaches⟩ | ⟨waits, _⟩
  · rw [same]
    exact ⟨resolved, keys⟩
  · rw [attaches]
    exact ⟨resolved, keys⟩
  · rw [resolved] at waits
    cases waits

/-- **What can be relied on about a message** after some calls for its tables. -/
structure SafelyResolved (initial message : Message) : Prop where
  /-- A call that succeeds writes to the message what it answers with. -/
  succeeds : ∀ call next, TableCall.outcome call message = .ok next →
    call.inPlace message = .ok () next
  /-- A call that fails has written nothing. -/
  unchanged : ∀ call fault, TableCall.outcome call message = .error fault →
    call.inPlace message = .error fault message
  /-- Tables are attached once, and then the message holds those that were given. -/
  attaches : ∀ tables next, message.setAddressTables tables = .ok next ↔
    message.tables = none ∧ next = { message with tables := some tables }
  attached : ∀ tables calls, message.tables = some tables →
    (message.afterCalls calls).tables = some tables
  /-- Calls touch the keys, the tables and the mark of being resolved, and nothing else. -/
  rest : message = { initial with
    keys := message.keys, tables := message.tables, isResolved := message.isResolved }
  serialize : message.serialize = initial.serialize
  staticKeys : message.staticKeys = initial.staticKeys
  staticCount : message.staticCount = initial.staticCount
  isSigner : ∀ index, message.isSigner index = initial.isSigner index
  isWritable : ∀ index, message.isWritable index = initial.isWritable index
  resolves : message.isResolved = false → message.lookups ≠ [] →
    ((∃ next, message.resolveLookups = .ok next ∧ next.isResolved = true) ↔
      ∃ tables, message.tables = some tables ∧ tables.Cover message.lookups)
  waiting : message.isResolved = false → message.keys = initial.keys
  /-- Behind the first keys stand those to be written of all lookups, then those to be read. -/
  resolved : message.isResolved = true →
    let addresses (lookup : TableLookup) := lookup.addressAt (message.tables.getD .empty)
    message.keys.map some = initial.keys.map some ++
      (message.lookups.flatMap fun lookup => lookup.writable.map (addresses lookup)) ++
      (message.lookups.flatMap fun lookup => lookup.readonly.map (addresses lookup))
  settled : message.isResolved = true → ∀ calls,
    (message.afterCalls calls).isResolved = true ∧ (message.afterCalls calls).keys = message.keys

private theorem exists_resolves_iff (waiting : message.isResolved = false)
    (looks : message.lookups ≠ []) :
    (∃ next, message.resolveLookups = .ok next ∧ next.isResolved = true) ↔
      ∃ tables, message.tables = some tables ∧ tables.Cover message.lookups := by
  simp only [resolveLookups_eq_ok_iff waiting, ← AddressTables.exists_loaded_iff_cover]
  constructor
  · rintro ⟨_, ⟨loaded, loads, _⟩, _⟩
    cases attached : message.tables with
    | some tables =>
        rw [attached] at loads
        exact ⟨tables, rfl, loaded, loads⟩
    | none =>
        rw [attached] at loads
        exact (looks (AddressTables.eq_nil_of_loads_empty loads)).elim
  · rintro ⟨tables, attached, loaded, loads⟩
    rw [attached]
    exact ⟨_, ⟨loaded, loads, rfl⟩, rfl⟩

/-- **Resolving is one safe step**, whatever calls come in whatever order. -/
theorem safelyResolved_run (version : MessageVersion) (header : Header) (keys : List PublicKey)
    (blockhash : Hash) (instructions : List CompiledInstruction) (lookups : List TableLookup)
    (calls : List TableCall) :
    let initial := ofParts version header keys blockhash instructions lookups
    SafelyResolved initial (initial.afterCalls calls) := by
  intro initial
  have fresh : initial.isResolved = false := rfl
  have stage : Stage initial (initial.afterCalls calls) := (Stage.waiting none).afterCalls calls
  generalize initial.afterCalls calls = message at stage ⊢
  refine
    { succeeds := ?_, unchanged := ?_, attaches := ?_
      attached := fun tables more attached => tables_afterCalls attached more
      rest := stage.eq_initial
      serialize := stage.serialize_eq fresh
      staticKeys := stage.staticKeys_eq fresh
      staticCount := stage.staticCount_eq fresh
      isSigner := ?_
      isWritable := stage.isWritable_eq fresh
      resolves := exists_resolves_iff
      waiting := stage.keys_of_waiting
      resolved := ?_
      settled := keys_afterCalls }
  · intro call next answer
    rw [TableCall.inPlace_eq, answer]
  · intro call fault answer
    rw [TableCall.inPlace_eq, answer]
  · intro tables next
    rw [setAddressTables_eq_ok_iff, eq_comm (b := next)]
  · intro index
    rw [isSigner, stage.eq_initial]
    rfl
  · intro resolved addresses
    obtain ⟨loaded, loads, same⟩ := stage.keys_of_resolved fresh resolved
    obtain ⟨writable, readonly⟩ := AddressTables.map_flatten_of_loads loads
    rw [same, List.map_append, List.map_append, writable, readonly]

end Message

end LedgerClient
