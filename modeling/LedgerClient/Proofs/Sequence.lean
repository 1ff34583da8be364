import Mathlib.Data.List.Forall2
import Mathlib.Data.List.Perm.Basic
import Mathlib.Data.List.Nodup

/-! # Lists in order

Keeping the first mention of each key keeps the order of the first mentions
(`LedgerClient.Sequence.map_eraseDupsBy`), and the first mention stands in front of
every other one (`LedgerClient.Sequence.rel_of_mem_eraseDupsBy`). A property holds on
a front part of a list exactly when the places that have it are the first ones, as
many as there are (`LedgerClient.Sequence.pairwise_iff_lt_countP`).
-/

namespace LedgerClient.Sequence

section FirstMention

variable {α β : Type} [DecidableEq β] {key : α → β}

/-- Induction along the first mentions: behind a head, only the entries that it lets
through are looked at. -/
theorem inductionOnFirst (lets : α → α → Bool) {motive : List α → Prop} (nil : motive [])
    (cons : ∀ head rest, motive (rest.filter (lets head)) → motive (head :: rest))
    (entries : List α) : motive entries := by
  induction size : entries.length using Nat.strongRecOn generalizing entries with
  | ind size ih =>
      cases entries with
      | nil => exact nil
      | cons head rest =>
          have shorter := List.length_filter_le (lets head) rest
          rw [List.length_cons] at size
          exact cons head rest (ih _ (by omega) _ rfl)

private theorem eraseDupsBy_key_cons (entry : α) (entries : List α) :
    (entry :: entries).eraseDupsBy (fun first second => key first == key second) =
      entry :: (entries.filter fun other => !(key other == key entry)).eraseDupsBy
        fun first second => key first == key second := by
  rw [List.eraseDupsBy_cons]
  congr 2
  apply List.filter_congr
  intro other _
  by_cases same : key other = key entry <;> simp [same]

/-- What is left has no repetition. -/
theorem nodup_eraseDups (keys : List β) : keys.eraseDups.Nodup := by
  induction keys using inductionOnFirst fun head other : β => !(other == head) with
  | nil => exact List.nodup_nil
  | cons head rest ih =>
      rw [List.eraseDups_cons, List.nodup_cons]
      refine ⟨?_, ih⟩
      intro again
      have passed := List.of_mem_filter (List.mem_eraseDups.mp again)
      simp at passed

/-- Leaving entries out and keeping first mentions may change places. -/
theorem eraseDups_filter (kept : β → Bool) (keys : List β) :
    (keys.filter kept).eraseDups = keys.eraseDups.filter kept := by
  induction keys using inductionOnFirst fun head other : β => !(other == head) with
  | nil => rfl
  | cons head rest ih =>
      rw [List.eraseDups_cons, List.filter_cons, List.filter_cons, ← ih, List.filter_filter]
      by_cases stays : kept head = true
      · rw [if_pos stays, if_pos stays, List.eraseDups_cons, List.filter_filter]
        congr 2
        apply List.filter_congr
        intro other _
        exact Bool.and_comm _ _
      · rw [if_neg stays, if_neg stays]
        congr 1
        apply List.filter_congr
        intro other _
        by_cases same : other = head <;> simp [same, stays]

/-- First mentions in a list and then in another: those of the first list, and behind
them those of the second that the first list lacks. -/
theorem eraseDups_append (first second : List β) :
    (first ++ second).eraseDups =
      first.eraseDups ++ second.eraseDups.filter fun entry => entry ∉ first := by
  rw [List.eraseDups_append, List.removeAll, ← eraseDups_filter]
  congr 2
  apply List.filter_congr
  intro entry _
  by_cases member : entry ∈ first <;> simp [member]

/-- The keys of the first mentions are the keys without repetition. -/
theorem map_eraseDupsBy (entries : List α) :
    (entries.eraseDupsBy fun first second => key first == key second).map key =
      (entries.map key).eraseDups := by
  induction entries using inductionOnFirst fun head other : α => !(key other == key head) with
  | nil => rfl
  | cons head rest ih =>
      rw [eraseDupsBy_key_cons, List.map_cons, ih, List.map_cons, List.eraseDups_cons,
        List.filter_map]
      rfl

/-- What is left was there. -/
theorem mem_of_mem_eraseDupsBy {entries : List α} {entry : α}
    (first : entry ∈ entries.eraseDupsBy fun first second => key first == key second) :
    entry ∈ entries := by
  induction entries using inductionOnFirst fun head other : α => !(key other == key head) with
  | nil => exact first
  | cons head rest ih =>
      rw [eraseDupsBy_key_cons, List.mem_cons] at first
      rcases first with rfl | later
      · exact List.mem_cons_self
      · exact List.mem_cons_of_mem _ (List.mem_of_mem_filter (ih later))

/-- The first mention of a key stands in front of every other mention of it. -/
theorem rel_of_mem_eraseDupsBy {relation : α → α → Prop} (refl : ∀ entry, relation entry entry)
    {entries : List α} (ordered : entries.Pairwise relation) {entry other : α}
    (first : entry ∈ entries.eraseDupsBy fun first second => key first == key second)
    (member : other ∈ entries) (same : key other = key entry) : relation entry other := by
  induction entries using inductionOnFirst fun head other : α => !(key other == key head) with
  | nil => exact (List.not_mem_nil member).elim
  | cons head rest ih =>
      rw [eraseDupsBy_key_cons, List.mem_cons] at first
      rcases first with rfl | later
      · rcases List.mem_cons.mp member with rfl | behind
        · exact refl other
        · exact List.rel_of_pairwise_cons ordered behind
      · have passed := List.of_mem_filter (mem_of_mem_eraseDupsBy later)
        have behind : other ∈ rest := by
          rcases List.mem_cons.mp member with rfl | behind
          · simp [same] at passed
          · exact behind
        refine ih (ordered.of_cons.filter _) later ?_
        rw [List.mem_filter, same]
        exact ⟨behind, passed⟩

/-- Keys without repetition come in order of their first mentions of a kind. -/
theorem pairwise_eraseDups_filter (kind : α → Bool) (entries : List α) :
    ((entries.filter kind).map key).eraseDups.Pairwise fun first second =>
      entries.findIdx (fun entry => key entry == first && kind entry) <
        entries.findIdx fun entry => key entry == second && kind entry := by
  induction entries with
  | nil => exact .nil
  | cons head rest ih =>
      by_cases counts : kind head = true
      · rw [List.filter_cons_of_pos counts, List.map_cons, List.eraseDups_cons, eraseDups_filter,
          List.pairwise_cons]
        have behind {other : β} (different : other ≠ key head) :
            (head :: rest).findIdx (fun entry => key entry == other && kind entry) =
              rest.findIdx (fun entry => key entry == other && kind entry) + 1 := by
          rw [List.findIdx_cons, beq_false_of_ne different.symm, Bool.false_and, cond_false]
        constructor
        · intro other later
          have different : other ≠ key head := by simpa using List.of_mem_filter later
          rw [behind different, List.findIdx_cons, beq_self_eq_true, counts, Bool.true_and,
            cond_true]
          exact Nat.succ_pos _
        · refine List.Pairwise.imp_of_mem ?_ (ih.filter _)
          intro first second one two earlier
          have firstDifferent : first ≠ key head := by simpa using List.of_mem_filter one
          have secondDifferent : second ≠ key head := by simpa using List.of_mem_filter two
          rw [behind firstDifferent, behind secondDifferent]
          exact Nat.succ_lt_succ earlier
      · rw [List.filter_cons_of_neg counts]
        refine ih.imp ?_
        intro first second earlier
        rw [List.findIdx_cons, List.findIdx_cons, eq_false_of_ne_true counts, Bool.and_false,
          Bool.and_false, cond_false, cond_false]
        exact Nat.succ_lt_succ earlier

end FirstMention

section Related

variable {α β : Type} {relation : α → β → Prop}

/-- Entries that are each related to something are related to a list. -/
theorem exists_forall₂ {firsts : List α}
    (each : ∀ first ∈ firsts, ∃ second, relation first second) :
    ∃ seconds, List.Forall₂ relation firsts seconds := by
  induction firsts with
  | nil => exact ⟨[], .nil⟩
  | cons first rest ih =>
      obtain ⟨second, head⟩ := each first List.mem_cons_self
      obtain ⟨seconds, tail⟩ := ih fun other member => each other (List.mem_cons_of_mem _ member)
      exact ⟨second :: seconds, .cons head tail⟩

/-- Every entry on one side is related to one on the other. -/
theorem exists_of_mem_right {firsts : List α} {seconds : List β}
    (related : List.Forall₂ relation firsts seconds) {second : β} (member : second ∈ seconds) :
    ∃ first ∈ firsts, relation first second := by
  induction related with
  | nil => cases member
  | cons head _ ih =>
      rcases List.mem_cons.mp member with rfl | behind
      · exact ⟨_, List.mem_cons_self, head⟩
      · obtain ⟨first, present, holds⟩ := ih behind
        exact ⟨first, List.mem_cons_of_mem _ present, holds⟩

/-- An entry on the left has one on the right that it is related to. -/
theorem exists_of_mem_left {firsts : List α} {seconds : List β}
    (related : List.Forall₂ relation firsts seconds) {first : α} (member : first ∈ firsts) :
    ∃ second ∈ seconds, relation first second :=
  exists_of_mem_right related.flip member

/-- A relation between entries follows from another where the entries are listed. -/
theorem forall₂_imp_of_mem {other : α → β → Prop} {firsts : List α} {seconds : List β}
    (implies : ∀ first ∈ firsts, ∀ second, relation first second → other first second)
    (related : List.Forall₂ relation firsts seconds) : List.Forall₂ other firsts seconds := by
  induction related with
  | nil => exact .nil
  | cons head _ ih =>
      refine .cons (implies _ List.mem_cons_self _ head) (ih ?_)
      intro first member
      exact implies first (List.mem_cons_of_mem _ member)

end Related

section Grouping

variable {α β : Type}

/-- Putting entries together by group only changes their order. -/
theorem perm_flatMap_filter [DecidableEq β] {group : α → β} {groups : List β}
    (distinct : groups.Nodup) (entries : List α)
    (covered : ∀ entry ∈ entries, group entry ∈ groups) :
    (groups.flatMap fun name => entries.filter fun entry => group entry = name).Perm entries := by
  induction groups generalizing entries with
  | nil =>
      have none : entries = [] := by
        apply List.eq_nil_iff_forall_not_mem.mpr
        intro entry member
        cases covered entry member
      rw [none]
      exact .nil
  | cons name names ih =>
      rw [List.nodup_cons] at distinct
      have remaining := ih distinct.2 (entries.filter fun entry => !decide (group entry = name)) (by
        intro entry member
        rw [List.mem_filter, Bool.not_eq_true', decide_eq_false_iff_not] at member
        exact (List.mem_cons.mp (covered entry member.1)).resolve_left member.2)
      have later : (names.flatMap fun other => entries.filter fun entry => group entry = other) =
          names.flatMap fun other => (entries.filter fun entry =>
            !decide (group entry = name)).filter fun entry => group entry = other := by
        apply List.flatMap_congr
        intro other member
        rw [List.filter_filter]
        apply List.filter_congr
        intro entry _
        by_cases same : group entry = other
        · have different : other ≠ name := by
            rintro rfl
            exact distinct.1 member
          simp [same, different]
        · simp [same]
      rw [List.flatMap_cons, later]
      exact (remaining.append_left _).trans (List.filter_append_perm _ _)

/-- Dropping entries while mapping is dropping them first. -/
theorem filterMap_unless {dropped : α → Bool} {next : α → β} (entries : List α) :
    entries.filterMap (fun entry => if dropped entry = true then none else some (next entry)) =
      (entries.filter fun entry => !dropped entry).map next := by
  induction entries with
  | nil => rfl
  | cons entry rest ih =>
      by_cases drop : dropped entry = true
      · rw [List.filterMap_cons_none (by rw [if_pos drop]), ih,
          List.filter_cons_of_neg (by rw [drop]; decide)]
      · rw [List.filterMap_cons_some (by rw [if_neg drop]), ih,
          List.filter_cons_of_pos (by simpa using drop), List.map_cons]

/-- Entries that give nothing can be left out. -/
theorem flatMap_filter_of_nil {used : α → Bool} {next : α → List β} {entries : List α}
    (unused : ∀ entry ∈ entries, ¬ used entry = true → next entry = []) :
    (entries.filter used).flatMap next = entries.flatMap next := by
  induction entries with
  | nil => rfl
  | cons entry rest ih =>
      have tail := ih fun other member => unused other (List.mem_cons_of_mem _ member)
      by_cases inUse : used entry = true
      · rw [List.filter_cons_of_pos inUse, List.flatMap_cons, List.flatMap_cons, tail]
      · rw [List.filter_cons_of_neg inUse, List.flatMap_cons, tail,
          unused entry List.mem_cons_self inUse, List.nil_append]

/-- Entries that each give something are no more than what they give in all. -/
theorem length_le_of_gives (first second : α → List β) {entries : List α}
    (gives : ∀ entry ∈ entries, 0 < (first entry).length + (second entry).length) :
    entries.length ≤
      (entries.map first).flatten.length + (entries.map second).flatten.length := by
  induction entries with
  | nil => exact Nat.zero_le _
  | cons entry rest ih =>
      have head := gives entry List.mem_cons_self
      have tail := ih fun other member => gives other (List.mem_cons_of_mem _ member)
      simp only [List.length_cons, List.map_cons, List.flatten_cons, List.length_append]
      omega

end Grouping

section Keyed

variable {α β : Type} [BEq α] [LawfulBEq α] [DecidableEq α] {key : α} {value : β}

/-- The first entry of a name is what is looked up. -/
theorem lookup_cons_eq {entry : α × β} {rest : List (α × β)} :
    (entry :: rest).lookup key = if key = entry.1 then some entry.2 else rest.lookup key := by
  by_cases same : key = entry.1
  · rw [if_pos same, same]
    exact List.lookup_cons_self
  · rw [if_neg same, List.lookup_cons, beq_false_of_ne same]

/-- Where no key is listed twice, what is listed is what is found. -/
theorem mem_iff_lookup_eq_some {entries : List (α × β)} (distinct : (entries.map Prod.fst).Nodup) :
    (key, value) ∈ entries ↔ entries.lookup key = some value := by
  induction entries with
  | nil => simp
  | cons entry rest ih =>
      obtain ⟨absent, distinctRest⟩ := List.nodup_cons.mp distinct
      rw [List.mem_cons, lookup_cons_eq, ih distinctRest]
      by_cases same : key = entry.1
      · rw [if_pos same]
        have only : rest.lookup key ≠ some value := by
          intro found
          apply absent
          exact same ▸ List.mem_map_of_mem ((ih distinctRest).mpr found)
        constructor
        · rintro (rfl | found)
          · rfl
          · exact (only found).elim
        · intro found
          rw [← Option.some.inj found, same]
          exact .inl rfl
      · rw [if_neg same]
        apply or_iff_right
        rintro rfl
        exact same rfl

end Keyed

section Behind

variable {α : Type} {first second entries : List α} {entry last : α} {place : Nat}

/-- **An entry of a list with one more entry** is the last one, or has the last one behind it. -/
theorem exists_split_concat_iff {found : List α → α → List α → Prop} :
    (∃ front entry back, entries ++ [last] = front ++ entry :: back ∧ found front entry back) ↔
      found entries last [] ∨ ∃ front entry back, entries = front ++ entry :: back ∧
        found front entry (back ++ [last]) := by
  constructor
  · rintro ⟨front, entry, back, split, here⟩
    rcases List.eq_nil_or_concat' back with rfl | ⟨back, final, rfl⟩
    · obtain ⟨rfl, rfl⟩ := List.append_singleton_inj.mp split
      exact .inl here
    · rw [← List.cons_append, ← List.append_assoc] at split
      obtain ⟨rfl, rfl⟩ := List.append_singleton_inj.mp split
      exact .inr ⟨front, entry, back, rfl, here⟩
  · rintro (here | ⟨front, entry, back, rfl, here⟩)
    · exact ⟨entries, last, [], rfl, here⟩
    · exact ⟨front, entry, back ++ [last], List.append_assoc .., here⟩

/-- What one more entry makes present is that entry, at the end. -/
theorem eq_of_getElem?_concat (absent : entries[place]? = none)
    (found : (entries ++ [last])[place]? = some entry) :
    place = entries.length ∧ entry = last := by
  have outside := List.getElem?_eq_none_iff.mp absent
  rw [List.getElem?_append_right outside] at found
  have inside : place - entries.length < 1 := (List.getElem?_eq_some_iff.mp found).1
  refine ⟨by omega, ?_⟩
  exact List.mem_singleton.mp (List.mem_of_getElem? found)

end Behind

section Level

variable {α β : Type} {slots : List α} {before after : List β} {entry : β}

/-- Where a list is split, another one of its length is split with it. -/
theorem exists_split_of_length (level : slots.length = (before ++ entry :: after).length) :
    ∃ front slot behind, slots = front ++ slot :: behind ∧ front.length = before.length := by
  rw [List.length_append, List.length_cons] at level
  have inside : before.length < slots.length := by omega
  refine ⟨slots.take before.length, slots[before.length], slots.drop (before.length + 1), ?_, ?_⟩
  · rw [← List.drop_eq_getElem_cons inside, List.take_append_drop]
  · exact List.length_take_of_le (Nat.le_of_lt inside)

/-- What goes beyond the other list is not paired. -/
theorem zip_append_left {front rest : List α} (level : front.length = before.length) :
    (front ++ rest).zip before = front.zip before := by
  calc (front ++ rest).zip before = (front ++ rest).zip (before ++ []) := by rw [List.append_nil]
    _ = front.zip before ++ rest.zip [] := List.zip_append level
    _ = front.zip before := by rw [List.zip_nil_right, List.append_nil]

/-- Changing one side of paired lists leaves the other side paired with it. -/
theorem zip_map_zip (change : α × β → α) {entries : List α} {others : List β}
    (level : entries.length = others.length) :
    ((entries.zip others).map change).zip others =
      (entries.zip others).map fun pair => (change pair, pair.2) := by
  have own : (entries.zip others).map Prod.snd = others :=
    List.map_snd_zip (Nat.le_of_eq level.symm)
  calc ((entries.zip others).map change).zip others =
        ((entries.zip others).map change).zip ((entries.zip others).map Prod.snd) := by rw [own]
    _ = (entries.zip others).map fun pair => (change pair, pair.2) := List.zip_map' ..

end Level

section FrontPart

variable {α : Type} {holds : α → Bool}

/-- A property that fails at the head fails everywhere if it holds on a front part. -/
theorem countP_eq_zero_of_head {head : α} {rest : List α}
    (front : (head :: rest).Pairwise fun first second => holds second = true → holds first = true)
    (fails : ¬ holds head = true) : rest.countP holds = 0 := by
  apply List.countP_eq_zero.mpr
  intro other member holdsThere
  exact fails (List.rel_of_pairwise_cons front member holdsThere)

/-- What is counted has a property or does not have it. -/
theorem countP_and_add_countP_and_not (counted : α → Bool) (entries : List α) :
    entries.countP (fun entry => counted entry && holds entry) +
      entries.countP (fun entry => counted entry && !holds entry) = entries.countP counted := by
  rw [List.countP_eq_countP_filter_add entries counted holds, List.countP_filter,
    List.countP_filter]

/-- Entries with a property come first if they are put in front of those without it. -/
theorem pairwise_append_of_front {front behind : List α}
    (inFront : ∀ entry ∈ front, holds entry = true)
    (notBehind : ∀ entry ∈ behind, ¬ holds entry = true) :
    (front ++ behind).Pairwise fun first second => holds second = true → holds first = true := by
  apply List.pairwise_append.mpr
  refine ⟨?_, ?_, ?_⟩
  · apply List.pairwise_of_forall_mem_list
    intro first member _ _ _
    exact inFront first member
  · apply List.pairwise_of_forall_mem_list
    intro _ _ second member holdsThere
    exact (notBehind second member holdsThere).elim
  · intro first member _ _ _
    exact inFront first member

/-- **A property holds on a front part** exactly when the places that have it are the
first ones, as many as there are. -/
theorem pairwise_iff_lt_countP {entries : List α} :
    entries.Pairwise (fun first second => holds second = true → holds first = true) ↔
      ∀ index (inside : index < entries.length),
        holds entries[index] = true ↔ index < entries.countP holds := by
  induction entries with
  | nil =>
      refine ⟨fun _ index inside => ?_, fun _ => .nil⟩
      exact (Nat.not_lt_zero _ inside).elim
  | cons head rest ih =>
      constructor
      · intro front index inside
        by_cases first : holds head = true
        · rw [List.countP_cons_of_pos first]
          cases index with
          | zero =>
              rw [List.getElem_cons_zero]
              exact iff_of_true first (Nat.succ_pos _)
          | succ index =>
              rw [List.getElem_cons_succ, Nat.succ_lt_succ_iff]
              exact ih.mp front.of_cons index (Nat.lt_of_succ_lt_succ inside)
        · rw [List.countP_cons_of_neg first, countP_eq_zero_of_head front first]
          refine iff_of_false ?_ (Nat.not_lt_zero _)
          cases index with
          | zero => exact first
          | succ index =>
              intro later
              rw [List.getElem_cons_succ] at later
              exact first (List.rel_of_pairwise_cons front (List.getElem_mem _) later)
      · intro places
        have atHead := places 0 (Nat.succ_pos _)
        rw [List.getElem_cons_zero] at atHead
        refine List.pairwise_cons.mpr ⟨?_, ih.mpr ?_⟩
        · intro other member later
          apply atHead.mpr
          rw [List.countP_cons]
          exact Nat.add_pos_left (List.countP_pos_iff.mpr ⟨other, member, later⟩) _
        · intro index inside
          have shifted := places (index + 1) (Nat.succ_lt_succ inside)
          rw [List.getElem_cons_succ] at shifted
          rw [shifted]
          by_cases first : holds head = true
          · rw [List.countP_cons_of_pos first, Nat.succ_lt_succ_iff]
          · rw [List.countP_cons_of_neg first]
            have none : rest.countP holds = 0 := by
              have nowhere := atHead.not.mp first
              rw [List.countP_cons_of_neg first] at nowhere
              omega
            omega

end FrontPart

section FirstFound

variable {α : Type} {holds : α → Bool} {entries : List α} {entry : α}

/-- In an ordered list the first entry with a property is the one that has no other in front of
it by that order. -/
theorem find?_eq_some_iff_of_pairwise {precedes : α → α → Prop}
    (asymmetric : ∀ first second, precedes first second → ¬ precedes second first)
    (ordered : entries.Pairwise precedes) :
    entries.find? holds = some entry ↔ entry ∈ entries ∧ holds entry = true ∧
      ∀ other ∈ entries, precedes other entry → ¬ holds other = true := by
  rw [List.find?_eq_some_iff_append]
  constructor
  · rintro ⟨holdsHere, before, after, rfl, fails⟩
    refine ⟨List.mem_append_right _ List.mem_cons_self, holdsHere, ?_⟩
    intro other member inFront
    rcases List.mem_append.mp member with earlier | later
    · simpa using fails other earlier
    · have behind := (List.pairwise_append.mp ordered).2.1
      rcases List.mem_cons.mp later with rfl | later
      · exact (asymmetric _ _ inFront inFront).elim
      · exact (asymmetric _ _ inFront (List.rel_of_pairwise_cons behind later)).elim
  · rintro ⟨member, holdsHere, first⟩
    obtain ⟨before, after, rfl⟩ := List.append_of_mem member
    refine ⟨holdsHere, before, after, rfl, ?_⟩
    intro other earlier
    have inFront := (List.pairwise_append.mp ordered).2.2 other earlier entry List.mem_cons_self
    simpa using first other (List.mem_append_left _ earlier) inFront

/-- Where one entry of a list without repetition has a property, it is the only one found. -/
theorem filter_eq_singleton (distinct : entries.Nodup)
    (only : ∀ other, other ∈ entries ∧ holds other = true ↔ other = entry) :
    entries.filter holds = [entry] := by
  apply List.perm_singleton.mp
  apply (List.perm_ext_iff_of_nodup (distinct.filter _) (List.nodup_singleton entry)).mpr
  intro other
  rw [List.mem_filter, only, List.mem_singleton]

end FirstFound

/-- A function that is constant behind some numbers maps them to copies of its value. -/
theorem map_range_add {β : Type} {f : Nat → β} {value : β} (first second : Nat)
    (constant : ∀ index, first ≤ index → index < first + second → f index = value) :
    (List.range (first + second)).map f =
      (List.range first).map f ++ List.replicate second value := by
  rw [List.range_add, List.map_append, List.map_map]
  congr 1
  apply List.eq_replicate_iff.mpr
  rw [List.length_map, List.length_range]
  refine ⟨rfl, fun found member => ?_⟩
  obtain ⟨offset, inside, rfl⟩ := List.mem_map.mp member
  rw [List.mem_range] at inside
  exact constant (first + offset) (Nat.le_add_right _ _) (Nat.add_lt_add_left inside first)

end LedgerClient.Sequence
