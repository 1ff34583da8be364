/-! # Sets of code points

A set of characters is listed as ranges of code points, in ascending order and with
their ends. Code points follow the Unicode standard, version 17. Main statement: a
number is found in such a list exactly if some range holds it.
-/

namespace LedgerClient

/-- Whether a number is in one of some ranges, which are in ascending order. -/
def inRanges (n : Nat) : List (Nat × Nat) → Bool
  | [] => false
  | (first, last) :: rest => first ≤ n && (n ≤ last || inRanges n rest)

/-- Whether ranges are in ascending order, with a gap between any two. -/
def areApart : List (Nat × Nat) → Bool
  | [] => true
  | [(first, last)] => first ≤ last
  | (first, last) :: next :: rest =>
    first ≤ last && last + 1 < next.1 && areApart (next :: rest)

theorem lt_of_areApart {range : Nat × Nat} {ranges : List (Nat × Nat)}
    (apart : areApart (range :: ranges)) : ∀ other ∈ ranges, range.1 < other.1 := by
  induction ranges generalizing range with
  | nil => simp
  | cons next rest ih =>
    simp only [areApart, Bool.and_eq_true, decide_eq_true_eq] at apart
    intro other member
    rcases List.mem_cons.mp member with rfl | later
    · omega
    · have := ih apart.2 other later
      omega

theorem areApart_tail {range : Nat × Nat} {ranges : List (Nat × Nat)}
    (apart : areApart (range :: ranges)) : areApart ranges := by
  cases ranges with
  | nil => rfl
  | cons next rest =>
    simp only [areApart, Bool.and_eq_true] at apart
    exact apart.2

/-- Looking no further than the first range beyond a number misses none. -/
theorem inRanges_iff {n : Nat} {ranges : List (Nat × Nat)} (apart : areApart ranges) :
    inRanges n ranges ↔ ∃ range ∈ ranges, range.1 ≤ n ∧ n ≤ range.2 := by
  induction ranges with
  | nil => simp [inRanges]
  | cons range rest ih =>
    have later := lt_of_areApart apart
    simp only [inRanges, Bool.and_eq_true, Bool.or_eq_true, decide_eq_true_eq,
      ih (areApart_tail apart), List.mem_cons, exists_eq_or_imp]
    constructor
    · rintro ⟨low, high | found⟩
      · exact .inl ⟨low, high⟩
      · exact .inr found
    · rintro (found | ⟨other, member, low, high⟩)
      · exact ⟨found.1, .inl found.2⟩
      · have := later other member
        exact ⟨by omega, .inr ⟨other, member, low, high⟩⟩

end LedgerClient
