import LedgerClient.Message.Basic
import LedgerClient.Proofs.Outcome
import LedgerClient.Proofs.Sequence

/-! # What a table holds

The contents of a table are the ones listed for it last
(`LedgerClient.AddressTables.find?_ofList`), so with every table listed once they are
the listed ones. Resolving a message adds what its lookups take from the tables
(`LedgerClient.Message.resolveLookups_of_loaded`) and leaves the privileges of every
place as they are (`LedgerClient.Message.isWritable_extended`).
-/

namespace LedgerClient

private theorem compare_eq_iff {first second : PublicKey} :
    compare first second = .eq ↔ first = second := by
  constructor
  · intro equal
    have bytewise : compare first.bytes.toList second.bytes.toList = .eq := equal
    have same := Bytes.ext (Std.LawfulEqOrd.eq_of_compare bytewise)
    cases first
    cases second
    exact congrArg Base58Value.mk same
  · rintro rfl
    exact @Std.ReflOrd.compare_self _ _ _ first.bytes.toList

namespace AddressTables

open Sequence (lookup_cons_eq)

variable {tables : AddressTables} {table key : PublicKey} {addresses : List PublicKey}

private theorem lookup_insertInto (entries : List (PublicKey × List PublicKey)) :
    (insertInto table addresses entries).lookup key =
      if key = table then some addresses else entries.lookup key := by
  induction entries with
  | nil => exact lookup_cons_eq
  | cons entry rest ih =>
      rw [insertInto]
      split
      case h_1 => exact lookup_cons_eq
      case h_2 equal =>
        obtain rfl := compare_eq_iff.mp equal
        rw [lookup_cons_eq, lookup_cons_eq]
        by_cases same : key = entry.1
        · rw [if_pos same, if_pos same]
        · rw [if_neg same, if_neg same, if_neg same]
      case h_3 greater =>
        rw [lookup_cons_eq, lookup_cons_eq, ih]
        by_cases same : key = entry.1
        · have different : key ≠ table := by
            rintro rfl
            rw [compare_eq_iff.mpr same] at greater
            cases greater
          rw [if_pos same, if_neg different, if_pos same]
        · rw [if_neg same, if_neg same]

private theorem find?_insert : (tables.insert table addresses).find? key =
    if key = table then some addresses else tables.find? key :=
  lookup_insertInto tables.entries

/-- **The contents listed last** are the contents of a table. -/
theorem find?_ofList (listed : List (PublicKey × List PublicKey)) :
    (ofList listed).find? key = listed.reverse.lookup key := by
  have addedTo (tables : AddressTables) :
      (listed.foldl (fun tables entry => tables.insert entry.1 entry.2) tables).find? key =
        (listed.reverse.lookup key).or (tables.find? key) := by
    induction listed generalizing tables with
    | nil => rfl
    | cons entry rest ih =>
        rw [List.foldl_cons, ih, find?_insert, List.reverse_cons, List.lookup_append,
          Option.or_assoc]
        congr 1
        rw [lookup_cons_eq]
        by_cases same : key = entry.1
        · rw [if_pos same, if_pos same]
          rfl
        · rw [if_neg same, if_neg same]
          rfl
  rw [ofList, addedTo]
  exact Option.or_none

/-- Where tables are listed once, each is found with its own addresses. -/
theorem find?_ofList_of_mem {listed : List (PublicKey × List PublicKey)}
    (distinct : (listed.map Prod.fst).Nodup) (member : (table, addresses) ∈ listed) :
    (ofList listed).find? table = some addresses := by
  rw [find?_ofList]
  refine (Sequence.mem_iff_lookup_eq_some ?_).mp (List.mem_reverse.mpr member)
  exact ((List.reverse_perm listed).map Prod.fst).nodup_iff.mpr distinct

end AddressTables

namespace TableLookup

variable {lookup : TableLookup} {tables : AddressTables}

private theorem fetch_eq_ok_iff {addresses : List PublicKey} {index : UInt8} {key : PublicKey} :
    lookup.fetch addresses index = .ok key ↔ addresses[index.toNat]? = some key := by
  unfold fetch
  split
  case h_1 found =>
    rw [found, Option.some.injEq, Except.ok.injEq]
  case h_2 missing =>
    rw [missing]
    exact iff_of_false Outcome.throw_ne_ok (Option.some_ne_none key).symm

/-- A lookup takes the address at each of its indices. -/
theorem load_eq_ok_iff {loaded : List PublicKey × List PublicKey} :
    lookup.load tables = .ok loaded ↔ ∃ addresses, tables.find? lookup.table = some addresses ∧
      List.Forall₂ (fun index key => addresses[index.toNat]? = some key) lookup.writable loaded.1 ∧
      List.Forall₂ (fun index key => addresses[index.toNat]? = some key) lookup.readonly
        loaded.2 := by
  rw [load]
  split
  case h_1 missing =>
    rw [missing]
    refine iff_of_false Outcome.throw_ne_ok ?_
    rintro ⟨_, impossible, _⟩
    cases impossible
  case h_2 addresses found =>
    rw [found]
    simp only [Outcome.bind_eq_ok_iff, Outcome.pure_eq_ok_iff, Outcome.mapM_eq_ok_iff,
      fetch_eq_ok_iff, Option.some.injEq, exists_eq_left']
    constructor
    · rintro ⟨writable, writables, readonly, readonlies, rfl⟩
      exact ⟨writables, readonlies⟩
    · rintro ⟨writables, readonlies⟩
      exact ⟨_, writables, _, readonlies, rfl⟩

end TableLookup

namespace Message

variable {message : Message} {tables : AddressTables}
  {loaded : List (List PublicKey × List PublicKey)}

/-- The message with loaded keys behind its own. -/
def extended (message : Message) (loaded : List (List PublicKey × List PublicKey)) : Message :=
  { message with
    keys := message.keys ++ (loaded.map Prod.fst).flatten ++ (loaded.map Prod.snd).flatten
    isResolved := true }

/-- Resolution loads each lookup in turn and appends what is loaded. -/
theorem resolveLookups_eq (unresolved : message.isResolved = false)
    (attached : message.tables = some tables) : message.resolveLookups =
      message.lookups.mapM (·.load tables) >>= fun loaded => pure (message.extended loaded) := by
  rw [resolveLookups, unresolved, if_neg Bool.false_ne_true, attached]
  split
  case h_1 none =>
    rw [none, List.mapM_nil, pure_bind, extended, attached, none]
    simp only [List.map_nil, List.flatten_nil, List.append_nil]
    rfl
  case h_2 impossible => cases impossible
  case h_3 same _ =>
    cases same
    rw [← attached]
    rfl

/-- Resolution succeeds where every lookup can be loaded. -/
theorem resolveLookups_of_loaded (unresolved : message.isResolved = false)
    (attached : message.tables = some tables)
    (loads : message.lookups.mapM (·.load tables) = .ok loaded) :
    message.resolveLookups = .ok (message.extended loaded) := by
  rw [resolveLookups_eq unresolved attached, loads]
  rfl

/-- A message that resolves with tables has its lookups loaded from them. -/
theorem exists_loaded_of_resolves {attached resolved : Message} (unset : message.tables = none)
    (unresolved : message.isResolved = false) (set : message.setAddressTables tables = .ok attached)
    (resolves : attached.resolveLookups = .ok resolved) :
    ∃ loaded, message.lookups.mapM (·.load tables) = .ok loaded ∧
      resolved.keys = (message.extended loaded).keys ∧
      resolved.instructions = message.instructions := by
  rw [setAddressTables, unset] at set
  cases set
  have equal : resolveLookups { message with tables := some tables } = _ :=
    resolveLookups_eq unresolved rfl
  rw [resolves] at equal
  obtain ⟨loaded, loads, done⟩ := Outcome.bind_eq_ok_iff.mp equal.symm
  cases done
  exact ⟨loaded, loads, rfl, rfl⟩

/-- As many keys are loaded as the lookups ask for. -/
theorem length_of_loaded (loads : message.lookups.mapM (·.load tables) = .ok loaded) :
    (loaded.map Prod.fst).flatten.length = message.writableLookupCount ∧
      (loaded.map Prod.fst).flatten.length + (loaded.map Prod.snd).flatten.length =
        message.lookupCount := by
  rw [writableLookupCount, lookupCount]
  have eachLoads := Outcome.mapM_eq_ok_iff.mp loads
  clear loads
  generalize message.lookups = lookups at eachLoads ⊢
  induction eachLoads with
  | nil => exact ⟨rfl, rfl⟩
  | cons taken _ ih =>
      obtain ⟨_, _, writables, readonlies⟩ := TableLookup.load_eq_ok_iff.mp taken
      simp only [List.map_cons, List.flatten_cons, List.flatMap_cons, List.length_append]
      rw [← writables.length_eq, ← readonlies.length_eq]
      omega

/-- Resolving leaves a message its own keys. -/
theorem staticCount_extended (unresolved : message.isResolved = false)
    (loads : message.lookups.mapM (·.load tables) = .ok loaded) :
    (message.extended loaded).staticCount = message.staticCount := by
  have sizes := length_of_loaded loads
  have own : message.staticCount = message.keys.length := by
    rw [staticCount, unresolved, if_neg Bool.false_ne_true]
  have counted : (message.extended loaded).staticCount =
      (message.extended loaded).keys.length - message.lookupCount := rfl
  rw [own, counted, extended, List.length_append, List.length_append]
  omega

/-- **Resolving changes no privilege**: each place may be written as before. -/
theorem isWritable_extended (unresolved : message.isResolved = false)
    (loads : message.lookups.mapM (·.load tables) = .ok loaded) (index : Nat) :
    (message.extended loaded).isWritable index = message.isWritable index := by
  rw [isWritable, isWritable, staticCount_extended unresolved loads]
  rfl

end Message

end LedgerClient
