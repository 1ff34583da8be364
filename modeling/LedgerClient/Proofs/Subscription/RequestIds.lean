import LedgerClient.Subscription.RequestId
import Mathlib.Data.List.Nodup

/-! # Drawn ids

A source of ids only moves on along its random words. Ids that are drawn one after the
other come from different words, so they are different whenever the words used so far give
different ids (`LedgerClient.IdSource.DrawnInOrder.nodup`).
-/

namespace LedgerClient.IdSource

variable {source next last : IdSource} {ids : List UInt64} {id : UInt64} {isTaken : UInt64 → Bool}

/-- A source after some draws. -/
structure Later (source next : IdSource) : Prop where
  isShort : next.isShort = source.isShort
  draws : next.draws = source.draws
  used : source.used ≤ next.used

/-- A source comes no earlier than itself. -/
theorem Later.refl (source : IdSource) : source.Later source := ⟨rfl, rfl, Nat.le_refl _⟩

/-- What comes later still comes later. -/
theorem Later.trans (first : source.Later next) (second : next.Later last) : source.Later last :=
  ⟨second.isShort.trans first.isShort, second.draws.trans first.draws,
    Nat.le_trans first.used second.used⟩

/-- Drawing an id leads on. -/
theorem later_draw (source : IdSource) : source.Later source.draw.2 := ⟨rfl, rfl, Nat.le_succ _⟩

/-- Drawing a free id leads on. -/
theorem later_of_drawFree (drawn : source.drawFree isTaken = some (id, next)) :
    source.Later next := by
  obtain ⟨_, index, later, _, rfl⟩ := exists_of_drawFree drawn
  exact ⟨rfl, rfl, Nat.le_succ_of_le later⟩

/-- The next id is drawn if it is free. -/
theorem drawFree_of_free (free : isTaken source.draw.1 = false) :
    source.drawFree isTaken = some source.draw := by
  rw [drawFree]
  exact if_neg (ne_true_of_eq_false free)

/-- **The words that are skipped** on the way to a free id give ids that are taken. -/
theorem drawFree_skips (drawn : source.drawFree isTaken = some (id, next)) :
    isTaken id = false ∧ id = idOf source.isShort (source.draws (next.used - 1)) ∧
      source.used < next.used ∧ ∀ index, source.used ≤ index → index + 1 < next.used →
        isTaken (idOf source.isShort (source.draws index)) = true := by
  refine drawFree.partial_correctness isTaken (fun source result =>
    isTaken result.1 = false ∧
      result.1 = idOf source.isShort (source.draws (result.2.used - 1)) ∧
        source.used < result.2.used ∧ ∀ index, source.used ≤ index → index + 1 < result.2.used →
          isTaken (idOf source.isShort (source.draws index)) = true) ?_ source (id, next) drawn
  intro again ih source result drawn
  by_cases taken : isTaken source.draw.1 = true
  · simp only [taken, if_true] at drawn
    obtain ⟨free, same, later, skipped⟩ := ih _ _ drawn
    refine ⟨free, same, Nat.lt_of_succ_lt later, fun index reached before => ?_⟩
    rcases Nat.eq_or_lt_of_le reached with rfl | behind
    · exact taken
    · exact skipped index behind before
  · simp only [taken, Bool.false_eq_true, if_false] at drawn
    cases drawn
    refine ⟨eq_false_of_ne_true taken, rfl, Nat.lt_succ_self _, fun index reached before => ?_⟩
    exact absurd (Nat.lt_of_succ_lt_succ before) (Nat.not_lt.mpr reached)

/-- The words used so far give different ids. -/
def Distinct (source : IdSource) : Prop :=
  ∀ first second, first < source.used → second < source.used →
    idOf source.isShort (source.draws first) = idOf source.isShort (source.draws second) →
    first = second

/-- Ids that are distinct later are distinct now. -/
theorem Distinct.of_later (distinct : next.Distinct) (later : source.Later next) :
    source.Distinct := by
  intro first second one two same
  rw [← later.isShort, ← later.draws] at same
  exact distinct first second (Nat.lt_of_lt_of_le one later.used)
    (Nat.lt_of_lt_of_le two later.used) same

/-- Ids that come from words used so far, each from a later word than the one before. -/
def DrawnInOrder (source : IdSource) (ids : List UInt64) : Prop :=
  ∃ indices : List Nat, indices.Pairwise (· < ·) ∧ (∀ index ∈ indices, index < source.used) ∧
    ids = indices.map fun index => idOf source.isShort (source.draws index)

/-- No ids are drawn in order. -/
theorem drawnInOrder_nil (source : IdSource) : source.DrawnInOrder [] :=
  ⟨[], .nil, fun _ member => (List.not_mem_nil member).elim, rfl⟩

/-- Ids that were drawn stay in order when more are drawn. -/
theorem DrawnInOrder.later (inOrder : source.DrawnInOrder ids) (later : source.Later next) :
    next.DrawnInOrder ids := by
  obtain ⟨indices, increasing, used, rfl⟩ := inOrder
  refine ⟨indices, increasing, ?_, ?_⟩
  · intro index member
    exact Nat.lt_of_lt_of_le (used index member) later.used
  · rw [later.isShort, later.draws]

/-- A free id that is drawn comes after those before. -/
theorem DrawnInOrder.concat (inOrder : source.DrawnInOrder ids)
    (drawn : source.drawFree isTaken = some (id, next)) : next.DrawnInOrder (ids ++ [id]) := by
  obtain ⟨indices, increasing, used, rfl⟩ := inOrder
  obtain ⟨_, index, later, rfl, rfl⟩ := exists_of_drawFree drawn
  have before : ∀ other ∈ indices, other < index := fun other member =>
    Nat.lt_of_lt_of_le (used other member) later
  refine ⟨indices ++ [index], ?_, ?_, ?_⟩
  · refine List.pairwise_append.mpr ⟨increasing, List.pairwise_singleton _ _, ?_⟩
    intro other member last same
    rw [List.mem_singleton.mp same]
    exact before other member
  · intro other member
    rcases List.mem_append.mp member with old | new
    · exact Nat.lt_succ_of_lt (before other old)
    · rw [List.mem_singleton.mp new]
      exact Nat.lt_succ_self index
  · rw [List.map_append, List.map_singleton]

/-- **Ids drawn one after the other are different** if different words give different ids. -/
theorem DrawnInOrder.nodup (inOrder : source.DrawnInOrder ids) (distinct : source.Distinct) :
    ids.Nodup := by
  obtain ⟨indices, increasing, used, rfl⟩ := inOrder
  refine List.Nodup.map_on ?_ (increasing.imp Nat.ne_of_lt)
  intro first one second two same
  exact distinct first second (used first one) (used second two) same

end LedgerClient.IdSource
