import LedgerClient.Proofs.Message.Layout

/-! # What lookups load

A lookup loads what its table holds at the places that the layout takes from it
(`LedgerClient.Layout.fetched_of_loads`). Tables that hold the keys there give back exactly the
keys that come from tables (`LedgerClient.Layout.HeldIn.exists_loaded`).
-/

namespace LedgerClient.Layout

variable {layout : Layout} {feePayer : PublicKey} {instructions : List Instruction}

/-- Whether an account comes from a table. -/
def isUsed (layout : Layout) (table : Nat) : Bool :=
  !((layout.taken table true).isEmpty && (layout.taken table false).isEmpty)

/-- A table is used if something is taken from it. -/
theorem isUsed_iff {table : Nat} : layout.isUsed table = true ↔
    ∃ isWritable taken, taken ∈ layout.taken table isWritable := by
  simp only [isUsed, Bool.not_eq_true', Bool.and_eq_false_iff, List.isEmpty_eq_false_iff_exists_mem,
    Bool.exists_bool]
  exact or_comm

/-- The lookups are those of the used tables, in the order of the tables. -/
theorem lookups_eq : layout.lookups =
    (layout.tables.zipIdx.filter fun entry => layout.isUsed entry.2).map fun entry =>
      ⟨entry.1.1, (layout.taken entry.2 true).map Prod.snd,
        (layout.taken entry.2 false).map Prod.snd⟩ := by
  have sameEmpty (table : Nat) (isWritable : Bool) : (layout.taken table isWritable).isEmpty =
      ((layout.taken table isWritable).map Prod.snd).isEmpty := List.isEmpty_map.symm
  simp only [isUsed, sameEmpty]
  exact Sequence.filterMap_unless _

/-- Leaving out the unused tables leaves out no key. -/
theorem flatten_used (isWritable : Bool) :
    ((layout.tables.zipIdx.filter fun entry => layout.isUsed entry.2).map fun entry =>
      (layout.taken entry.2 isWritable).map Prod.fst).flatten = layout.takenKeys isWritable := by
  rw [← List.flatMap_def, Sequence.flatMap_filter_of_nil, takenKeys_eq, List.range_eq_range',
    ← List.zipIdx_map_snd, List.flatMap_map]
  intro entry _ unused
  rw [isUsed, Bool.not_eq_true', Bool.not_eq_false, Bool.and_eq_true, List.isEmpty_iff,
    List.isEmpty_iff] at unused
  cases isWritable
  · rw [unused.2, List.map_nil]
  · rw [unused.1, List.map_nil]

/-- Lookups load what the tables hold at the places that the layout takes from them. -/
theorem loads_iff {contents : AddressTables} {loaded : List (List PublicKey × List PublicKey)} :
    layout.lookups.mapM (·.load contents) = .ok loaded ↔
      List.Forall₂ (fun entry keys => ∃ addresses, contents.find? entry.1.1 = some addresses ∧
        List.Forall₂ (fun taken key => addresses[taken.2.toNat]? = some key)
          (layout.taken entry.2 true) keys.1 ∧
        List.Forall₂ (fun taken key => addresses[taken.2.toNat]? = some key)
          (layout.taken entry.2 false) keys.2)
        (layout.tables.zipIdx.filter fun entry => layout.isUsed entry.2) loaded := by
  rw [Outcome.mapM_eq_ok_iff, lookups_eq, List.forall₂_map_left_iff]
  simp only [TableLookup.load_eq_ok_iff, List.forall₂_map_left_iff]

/-- Contents of tables hold a key at a place of the layout's tables. -/
def Holds (layout : Layout) (contents : AddressTables) (slot : Slot) (key : PublicKey) : Prop :=
  ∃ entry addresses, layout.tables[slot.table]? = some entry ∧
    contents.find? entry.1 = some addresses ∧ addresses[slot.index.toNat]? = some key

/-- Contents of tables hold every key that the layout takes from a table. -/
def HeldIn (layout : Layout) (contents : AddressTables) : Prop :=
  ∀ placed ∈ layout.placed, ∀ slot, placed.slot = some slot →
    layout.Holds contents slot placed.account.key

/-- Tables that hold what the layout was given hold what it takes. -/
theorem Places.heldIn (sound : layout.Places feePayer instructions) {contents : AddressTables}
    (attached : ∀ entry ∈ layout.tables, contents.find? entry.1 = some entry.2) :
    layout.HeldIn contents := by
  intro placed present slot atSlot
  obtain ⟨entry, atTable, holds⟩ := sound.held placed present slot atSlot
  exact ⟨entry, entry.2, atTable, attached entry (List.mem_of_getElem? atTable), holds⟩

private theorem HeldIn.fetches {contents : AddressTables} (held : layout.HeldIn contents)
    {entry : PublicKey × List PublicKey} {addresses : List PublicKey} {table : Nat}
    (atTable : layout.tables[table]? = some entry)
    (found : contents.find? entry.1 = some addresses) (isWritable : Bool) :
    List.Forall₂ (fun taken key => addresses[taken.2.toNat]? = some key)
      (layout.taken table isWritable) ((layout.taken table isWritable).map Prod.fst) := by
  rw [List.forall₂_map_right_iff, List.forall₂_same]
  intro taken member
  obtain ⟨placed, present, atSlot, _, same⟩ := mem_taken_iff.mp member
  obtain ⟨other, listed, atPlace, foundThere, holds⟩ := held placed present _ atSlot
  rw [atTable] at atPlace
  cases atPlace
  rw [found] at foundThere
  cases foundThere
  rw [holds, same]

/-- **Lookups load** the keys that come from tables, if the tables hold them. -/
theorem HeldIn.exists_loaded {contents : AddressTables} (held : layout.HeldIn contents) :
    ∃ loaded, layout.lookups.mapM (·.load contents) = .ok loaded ∧
      (loaded.map Prod.fst).flatten = layout.takenKeys true ∧
      (loaded.map Prod.snd).flatten = layout.takenKeys false := by
  refine ⟨(layout.tables.zipIdx.filter fun entry => layout.isUsed entry.2).map fun entry =>
      ((layout.taken entry.2 true).map Prod.fst, (layout.taken entry.2 false).map Prod.fst),
    ?_, ?_, ?_⟩
  · rw [loads_iff, List.forall₂_map_right_iff, List.forall₂_same]
    intro entry member
    -- Whatever is taken from a table tells that something is attached under its address.
    obtain ⟨listed, used⟩ := List.mem_filter.mp member
    have atTable := List.mem_zipIdx_iff_getElem?.mp listed
    obtain ⟨isWritable, taken, member⟩ := isUsed_iff.mp used
    obtain ⟨placed, present, atSlot, _⟩ := mem_taken_iff.mp member
    obtain ⟨other, addresses, atPlace, found, _⟩ := held placed present _ atSlot
    rw [atTable] at atPlace
    cases atPlace
    exact ⟨addresses, found, held.fetches atTable found true, held.fetches atTable found false⟩
  · rw [List.map_map]
    exact flatten_used true
  · rw [List.map_map]
    exact flatten_used false

/-- Lookups load the keys that come from tables, if the tables hold what the layout was made
with. -/
theorem Places.exists_loaded (sound : layout.Places feePayer instructions)
    {contents : AddressTables}
    (attached : ∀ entry ∈ layout.tables, contents.find? entry.1 = some entry.2) :
    ∃ loaded, layout.lookups.mapM (·.load contents) = .ok loaded ∧
      (loaded.map Prod.fst).flatten = layout.takenKeys true ∧
      (loaded.map Prod.snd).flatten = layout.takenKeys false :=
  (sound.heldIn attached).exists_loaded

/-- What contents of tables hold at the place of a key that comes from a table. -/
def Fetched (layout : Layout) (contents : AddressTables) (key found : PublicKey) : Prop :=
  ∃ placed ∈ layout.placed, ∃ slot, placed.slot = some slot ∧ placed.account.key = key ∧
    layout.Holds contents slot found

private theorem fetched_of_taken {contents : AddressTables} {table : Nat} {isWritable : Bool}
    {entry : PublicKey × List PublicKey} {addresses keys : List PublicKey}
    (atTable : layout.tables[table]? = some entry)
    (found : contents.find? entry.1 = some addresses)
    (takes : List.Forall₂ (fun taken key => addresses[taken.2.toNat]? = some key)
      (layout.taken table isWritable) keys) :
    List.Forall₂ (layout.Fetched contents) ((layout.taken table isWritable).map Prod.fst) keys := by
  rw [List.forall₂_map_left_iff]
  refine Sequence.forall₂_imp_of_mem ?_ takes
  intro taken member key holds
  obtain ⟨placed, present, atSlot, _, same⟩ := mem_taken_iff.mp member
  exact ⟨placed, present, _, atSlot, same, entry, addresses, atTable, found, holds⟩

private theorem fetched_takenKeys {contents : AddressTables} {isWritable : Bool}
    {loaded : List (List PublicKey × List PublicKey)}
    {side : List PublicKey × List PublicKey → List PublicKey}
    (takes : List.Forall₂ (fun entry keys => ∃ addresses,
      contents.find? entry.1.1 = some addresses ∧
        List.Forall₂ (fun taken key => addresses[taken.2.toNat]? = some key)
          (layout.taken entry.2 isWritable) (side keys))
      (layout.tables.zipIdx.filter fun entry => layout.isUsed entry.2) loaded) :
    List.Forall₂ (layout.Fetched contents) (layout.takenKeys isWritable)
      (loaded.map side).flatten := by
  rw [← flatten_used]
  apply List.rel_flatten
  rw [List.forall₂_map_left_iff, List.forall₂_map_right_iff]
  refine Sequence.forall₂_imp_of_mem ?_ takes
  rintro entry member keys ⟨addresses, found, takes⟩
  have atTable := List.mem_zipIdx_iff_getElem?.mp (List.mem_of_mem_filter member)
  exact fetched_of_taken atTable found takes

/-- **What lookups load** is what the tables hold at the places of the keys. -/
theorem fetched_of_loads {contents : AddressTables}
    {loaded : List (List PublicKey × List PublicKey)}
    (loads : layout.lookups.mapM (·.load contents) = .ok loaded) :
    List.Forall₂ (layout.Fetched contents) (layout.takenKeys true) (loaded.map Prod.fst).flatten ∧
      List.Forall₂ (layout.Fetched contents) (layout.takenKeys false)
        (loaded.map Prod.snd).flatten := by
  have takes := loads_iff.mp loads
  constructor
  · apply fetched_takenKeys
    refine takes.imp ?_
    rintro _ _ ⟨addresses, found, writable, _⟩
    exact ⟨addresses, found, writable⟩
  · apply fetched_takenKeys
    refine takes.imp ?_
    rintro _ _ ⟨addresses, found, _, readonly⟩
    exact ⟨addresses, found, readonly⟩

end LedgerClient.Layout
