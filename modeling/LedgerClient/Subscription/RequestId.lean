import LedgerClient.Text.Positional

/-! # Request ids

Ids are drawn at random, so that they say nothing about how many requests there
were. They have 63 bits, or 31 for servers that refuse larger ones.
-/

namespace LedgerClient

/-- Where request ids come from. -/
structure IdSource where
  /-- Whether ids have 31 bits. -/
  isShort : Bool
  /-- The random words to come. -/
  draws : Nat → UInt64
  /-- How many words have been used. -/
  used : Nat

namespace IdSource

/-- The id that a random word gives. -/
def idOf (isShort : Bool) (word : UInt64) : UInt64 :=
  if isShort then UInt64.ofNat (word.toNat % 2 ^ 32 / 2) else UInt64.ofNat (word.toNat / 2)

/-- Draw an id. -/
def draw (source : IdSource) : UInt64 × IdSource :=
  (idOf source.isShort (source.draws source.used), { source with used := source.used + 1 })

/-- Draw ids until one is free. There is no result if none ever is. -/
def drawFree (isTaken : UInt64 → Bool) (source : IdSource) : Option (UInt64 × IdSource) :=
  let (id, rest) := source.draw
  if isTaken id then rest |>.drawFree isTaken else some (id, rest)
partial_fixpoint

/-- The id that is drawn is the first free one: its word is among the next ones, and it is
not taken. -/
theorem exists_of_drawFree {isTaken : UInt64 → Bool} {source rest : IdSource} {id : UInt64}
    (drawn : drawFree isTaken source = some (id, rest)) :
    isTaken id = false ∧ ∃ index, source.used ≤ index ∧
      id = idOf source.isShort (source.draws index) ∧ rest = { source with used := index + 1 } := by
  refine drawFree.partial_correctness isTaken
    (fun source result => isTaken result.1 = false ∧ ∃ index, source.used ≤ index ∧
      result.1 = idOf source.isShort (source.draws index) ∧
        result.2 = { source with used := index + 1 }) ?_ source (id, rest) drawn
  intro again ih source result drawn
  by_cases taken : isTaken (source.draw).1 = true
  · simp only [taken, if_true] at drawn
    obtain ⟨free, index, later, same, reached⟩ := ih _ _ drawn
    exact ⟨free, index, Nat.le_of_succ_le later, same, reached⟩
  · simp only [taken, Bool.false_eq_true, if_false] at drawn
    cases drawn
    exact ⟨eq_false_of_ne_true taken, source.used, Nat.le_refl _, rfl, rfl⟩

end IdSource

end LedgerClient
