import LedgerClient.Json.Shape
import LedgerClient.Proofs.Sequence
import Mathlib.Data.Option.Basic

/-! # Records and the values they are read from

The value of an object has the values of its members, each under its name
(`LedgerClient.Json.exists_of_value_object`). A record that is read from the same object finds
under each of its fields what that value has there (`LedgerClient.Json.Fields.exists_ofTree`).
So what is read from a field is a matter of the value alone.
-/

namespace LedgerClient.Json

variable {τ ν α β : Type} [Meaning τ ν]

/-! ### Values of arrays and objects -/

private theorem valuesOnto_eq_ok_iff {depth : Nat} {items : List (Tree τ ν)} {found : List Json}
    {json : Json} : Tree.valuesOnto depth found items = .ok json ↔
      ∃ values, List.Forall₂ (fun item value => Tree.value depth item = .ok value) items values ∧
        json = .array (found.reverse ++ values) := by
  induction items generalizing found with
  | nil => simp [Tree.valuesOnto, eq_comm]
  | cons item rest ih =>
      rw [Tree.valuesOnto]
      cases read : Tree.value depth item with
      | error fault => simp [List.forall₂_cons_left_iff, read]
      | ok next => simp [ih, List.forall₂_cons_left_iff, read]

/-- A member is read under a name, with a value. -/
def Named (reads : Tree τ ν → β → Prop) (member : τ × Tree τ ν) (named : String × β) : Prop :=
  Meaning.text ν member.1 = .ok named.1 ∧ reads member.2 named.2

private theorem membersOnto_eq_ok_iff {depth : Nat} {members : List (τ × Tree τ ν)}
    {found : List (String × Json)} {json : Json} :
    Tree.membersOnto depth found members = .ok json ↔
      ∃ named, List.Forall₂ (Named fun item value => Tree.value depth item = .ok value)
        members named ∧ json = ofMembers (found.reverse ++ named) := by
  induction members generalizing found with
  | nil => simp [Tree.membersOnto, eq_comm]
  | cons member rest ih =>
      obtain ⟨title, item⟩ := member
      rw [Tree.membersOnto]
      cases name : Meaning.text ν title with
      | error fault => simp [List.forall₂_cons_left_iff, Named, name]
      | ok known =>
          cases read : Tree.value depth item with
          | error fault => simp [List.forall₂_cons_left_iff, Named, read]
          | ok next => simp [ih, List.forall₂_cons_left_iff, Named, name, read]

/-- What a tree is at its root. -/
inductive Kind where
  | null
  | bool
  | number
  | text
  | array
  | object

omit [Meaning τ ν] in
/-- What sort of value a tree is. -/
def Tree.kind : Tree τ ν → Kind
  | .null => .null
  | .bool _ => .bool
  | .number _ => .number
  | .text _ => .text
  | .array _ => .array
  | .object _ => .object

/-- **A value is of the same kind** as the tree that it is read from. -/
theorem kind_of_value {depth : Nat} {tree : Tree τ ν} {json : Json}
    (read : Tree.value depth tree = .ok json) : json.kind = tree.kind := by
  cases tree with
  | null | bool =>
      rw [Tree.value] at read
      cases read
      rfl
  | number n =>
      rw [Tree.value] at read
      cases known : Meaning.number τ n with
      | error fault =>
          rw [known] at read
          cases read
      | ok number =>
          rw [known] at read
          cases read
          rfl
  | text t =>
      rw [Tree.value] at read
      cases known : Meaning.text ν t with
      | error fault =>
          rw [known] at read
          cases read
      | ok text =>
          rw [known] at read
          cases read
          rfl
  | array items =>
      cases depth with
      | zero =>
          rw [Tree.value] at read
          cases read
      | succ depth =>
          rw [Tree.value] at read
          obtain ⟨_, _, rfl⟩ := valuesOnto_eq_ok_iff.mp read
          rfl
  | object members =>
      cases depth with
      | zero =>
          rw [Tree.value] at read
          cases read
      | succ depth =>
          rw [Tree.value] at read
          obtain ⟨_, _, rfl⟩ := membersOnto_eq_ok_iff.mp read
          rfl

/-- A number is read as a number. -/
theorem exists_of_value_number {depth : Nat} {n : ν} {json : Json}
    (read : Tree.value depth (.number n : Tree τ ν) = .ok json) :
    ∃ number, json = .number number := by
  have same := kind_of_value read
  cases json with
  | number number => exact ⟨number, rfl⟩
  | null | bool | text | array | object => cases same

/-- A text is read as a text. -/
theorem exists_of_value_text {depth : Nat} {t : τ} {json : Json}
    (read : Tree.value depth (.text t : Tree τ ν) = .ok json) : ∃ text, json = .text text := by
  have same := kind_of_value read
  cases json with
  | text text => exact ⟨text, rfl⟩
  | null | bool | number | array | object => cases same

/-- Nothing but null is read as null. -/
theorem eq_null_of_value {depth : Nat} {tree : Tree τ ν}
    (read : Tree.value depth tree = .ok .null) : tree = .null := by
  have same := kind_of_value read
  cases tree with
  | null => rfl
  | bool | number | text | array | object => cases same

/-- Nothing but an object is read as an object. -/
theorem exists_of_value_eq_object {depth : Nat} {tree : Tree τ ν} {sorted : List (String × Json)}
    (read : Tree.value depth tree = .ok (.object sorted)) : ∃ members, tree = .object members := by
  have same := kind_of_value read
  cases tree with
  | object members => exact ⟨members, rfl⟩
  | null | bool | number | text | array => cases same

/-- No object in a tree repeats a name. -/
inductive Tree.Unrepeated : Tree τ ν → Prop
  | null : Unrepeated .null
  | bool {b : Bool} : Unrepeated (.bool b)
  | number {n : ν} : Unrepeated (.number n)
  | text {t : τ} : Unrepeated (.text t)
  | array {items : List (Tree τ ν)} (each : ∀ item ∈ items, Unrepeated item) :
      Unrepeated (.array items)
  | object {members : List (τ × Tree τ ν)}
      (distinct : (members.map fun member => Meaning.text ν member.1).Nodup)
      (each : ∀ member ∈ members, Unrepeated member.2) : Unrepeated (.object members)

private theorem perm_insertMember {name : String} {value : β} {members : List (String × β)}
    (fresh : name ∉ members.map Prod.fst) :
    (insertMember name value members).Perm ((name, value) :: members) := by
  induction members with
  | nil => exact .refl _
  | cons member rest ih =>
      rw [List.map_cons, List.mem_cons, not_or] at fresh
      rw [insertMember]
      split
      · exact .refl _
      · rw [if_neg fresh.1]
        exact ((ih fresh.2).cons member).trans (.swap _ _ _)

/-- The members of an object are those that were given, where no name was given twice. -/
theorem perm_ofMembers {named sorted : List (String × Json)}
    (distinct : (named.map Prod.fst).Nodup) (written : ofMembers named = .object sorted) :
    sorted.Perm named := by
  have onto (before rest : List (String × Json)) (apart : ((before ++ rest).map Prod.fst).Nodup) :
      (rest.foldl (fun sorted member => insertMember member.1 member.2 sorted) before).Perm
        (before ++ rest) := by
    induction rest generalizing before with
    | nil =>
        rw [List.append_nil]
        exact .refl before
    | cons member rest ih =>
        have shifted : (before ++ member :: rest).Perm (member :: before ++ rest) :=
          List.perm_middle
        have fresh : member.1 ∉ before.map Prod.fst := by
          have split := (shifted.map Prod.fst).nodup_iff.mp apart
          rw [List.cons_append, List.map_cons, List.nodup_cons, List.map_append] at split
          exact fun old => split.1 (List.mem_append_left _ old)
        have put : (insertMember member.1 member.2 before ++ rest).Perm
            (before ++ member :: rest) :=
          ((perm_insertMember fresh).append_right rest).trans shifted.symm
        exact (ih _ ((put.map Prod.fst).nodup_iff.mpr apart)).trans put
  cases written
  exact onto [] named distinct

private theorem nodup_names {reads : Tree τ ν → β → Prop} {members : List (τ × Tree τ ν)}
    {named : List (String × β)} (named_members : List.Forall₂ (Named reads) members named)
    (distinct : (members.map fun member => Meaning.text ν member.1).Nodup) :
    (named.map Prod.fst).Nodup := by
  have same : members.map (fun member => Meaning.text ν member.1) =
      (named.map Prod.fst).map .ok := by
    induction named_members with
    | nil => rfl
    | cons first _ ih =>
        rw [List.map_cons, List.nodup_cons] at distinct
        rw [List.map_cons, List.map_cons, List.map_cons, ih distinct.2, first.1]
  rw [same] at distinct
  exact List.Nodup.of_map _ distinct

/-- **The value of an object has the values of its members.** -/
theorem exists_of_value_object {depth : Nat} {members : List (τ × Tree τ ν)} {json : Json}
    (read : Tree.value (depth + 1) (.object members) = .ok json)
    (distinct : (members.map fun member => Meaning.text ν member.1).Nodup) :
    ∃ named sorted, json = .object sorted ∧ sorted.Perm named ∧
      (named.map Prod.fst).Nodup ∧
        List.Forall₂ (Named fun item value => Tree.value depth item = .ok value)
          members named := by
  rw [Tree.value] at read
  obtain ⟨named, each, same⟩ := membersOnto_eq_ok_iff.mp read
  have apart := nodup_names each distinct
  exact ⟨named, _, same, perm_ofMembers apart rfl, apart, each⟩

/-! ### Fields -/

namespace Fields

/-- The slots of some fields with what was given for each. -/
def slotsOf (names : List String) (given : String → Option (Tree τ ν)) :
    List (String × Option (Tree τ ν)) :=
  names.map fun name => (name, given name)

omit [Meaning τ ν] in
private theorem assign_slotsOf {names : List String} {given : String → Option (Tree τ ν)}
    {title : String} (distinct : names.Nodup) (free : given title = none) (tree : Tree τ ν) :
    assign title tree (slotsOf names given) =
      .ok (slotsOf names fun name => if name = title then some tree else given name) := by
  induction names with
  | nil => rfl
  | cons name rest ih =>
      obtain ⟨absent, others⟩ := List.nodup_cons.mp distinct
      change assign title tree ((name, given name) :: slotsOf rest given) = _
      unfold assign
      by_cases same : name = title
      · have kept : slotsOf rest given =
            slotsOf rest fun name => if name = title then some tree else given name := by
          apply List.map_congr_left
          intro other member
          dsimp only
          rw [if_neg]
          intro again
          exact absent (same ▸ again ▸ member)
        rw [if_pos same, same, free, kept]
        simp [slotsOf]
      · rw [if_neg same, ih others]
        simp [slotsOf, same, Except.map]

/-- Every member goes to the field of its name, if there is one. -/
theorem exists_assignAll {reads : Tree τ ν → β → Prop} {names : List String}
    {members : List (τ × Tree τ ν)} {named : List (String × β)}
    {given : String → Option (Tree τ ν)} {known : String → Option β} (distinct : names.Nodup)
    (each : List.Forall₂ (Named reads) members named) (apart : (named.map Prod.fst).Nodup)
    (agree : ∀ name, Option.Rel reads (given name) (known name))
    (free : ∀ title ∈ named.map Prod.fst, known title = none) :
    ∃ after, assignAll (slotsOf names given) members = .ok (slotsOf names after) ∧
      ∀ name, Option.Rel reads (after name) ((named.lookup name).or (known name)) := by
  -- What the slots hold so far agrees with what is known so far, and no name comes twice.
  induction each generalizing given known with
  | nil => exact ⟨given, rfl, agree⟩
  | @cons member entry members named first _ ih =>
      obtain ⟨absent, others⟩ := List.nodup_cons.mp apart
      obtain ⟨unknown, rest⟩ := List.forall_mem_cons.mp free
      have unset : given entry.1 = none := by
        have here := agree entry.1
        rw [unknown] at here
        cases same : given entry.1 with
        | none => rfl
        | some tree =>
            rw [same] at here
            cases here
      have agreeNext (name : String) : Option.Rel reads
          (if name = entry.1 then some member.2 else given name)
          (if name = entry.1 then some entry.2 else known name) := by
        split
        · exact .some first.2
        · exact agree name
      have freeNext (title : String) (listed : title ∈ named.map Prod.fst) :
          (if title = entry.1 then some entry.2 else known title) = none := by
        rw [if_neg]
        · exact rest title listed
        · rintro rfl
          exact absent listed
      obtain ⟨after, assigned, agrees⟩ := ih others agreeNext freeNext
      refine ⟨after, ?_, ?_⟩
      · simp only [assignAll, first.1, Except.bind, assign_slotsOf distinct unset]
        exact assigned
      · intro name
        have here := agrees name
        rw [Sequence.lookup_cons_eq]
        by_cases same : name = entry.1
        · have gone : named.lookup name = none := by
            apply List.lookup_eq_none_iff.mpr
            intro other listed
            rw [bne_iff_ne, same]
            intro again
            exact absent (again ▸ List.mem_map_of_mem listed)
          rw [gone, if_pos same] at here
          rw [if_pos same]
          exact here
        · rw [if_neg same] at here
          rw [if_neg same]
          exact here

/-- **A record finds under each of its fields** what is read there. -/
theorem exists_ofTree {reads : Tree τ ν → β → Prop} {names : List String} {depth : Nat}
    {members : List (τ × Tree τ ν)} {named : List (String × β)} (distinct : names.Nodup)
    (each : List.Forall₂ (Named reads) members named) (apart : (named.map Prod.fst).Nodup) :
    ∃ fields, ofTree names (depth + 1) (.object members) = .ok fields ∧ fields.depth = depth ∧
      fields.isPositional = false ∧
        ∀ name ∈ names, Option.Rel reads (fields.get? name) (named.lookup name) := by
  have unset (_ : String) : Option.Rel reads none none := .none
  obtain ⟨after, assigned, agrees⟩ := exists_assignAll distinct each apart unset fun _ _ => rfl
  refine ⟨⟨slotsOf names after, false, depth⟩, ?_, rfl, rfl, fun name member => ?_⟩
  · rw [ofTree]
    change (assignAll (slotsOf names fun _ => none) members).map _ = _
    rw [assigned]
    rfl
  · have slot : (slotsOf names after).lookup name = some (after name) := by
      apply (Sequence.mem_iff_lookup_eq_some ?_).mp
      · exact List.mem_map_of_mem member
      · rw [slotsOf, List.map_map]
        exact (List.map_id names).symm ▸ distinct
    have here := agrees name
    rw [Option.or_none] at here
    rw [get?, slot]
    exact here

end Fields

private theorem lookup_eq_of_perm {first second : List (String × β)}
    (apart : (second.map Prod.fst).Nodup) (perm : first.Perm second) (name : String) :
    first.lookup name = second.lookup name := by
  have alsoApart : (first.map Prod.fst).Nodup := (perm.map Prod.fst).nodup_iff.mpr apart
  apply Option.ext
  intro value
  rw [← Sequence.mem_iff_lookup_eq_some apart, ← Sequence.mem_iff_lookup_eq_some alsoApart]
  exact perm.mem_iff

/-- A tree in which no object repeats a name, and its value. -/
structure Shows (depth : Nat) (tree : Tree τ ν) (json : Json) : Prop where
  value : Tree.value depth tree = .ok json
  unrepeated : tree.Unrepeated

/-- **What is read from a field** is what the value of the same object has under its name. -/
theorem Shows.exists_fields {names : List String} {depth : Nat} {members : List (τ × Tree τ ν)}
    {json : Json} (distinct : names.Nodup) (shows : Shows (depth + 1) (.object members) json) :
    ∃ sorted fields, json = .object sorted ∧ (sorted.map Prod.fst).Nodup ∧
      Fields.ofTree names (depth + 1) (.object members) = .ok fields ∧ fields.depth = depth ∧
        fields.isPositional = false ∧ ∀ name ∈ names,
          Option.Rel (Shows fields.depth) (fields.get? name) (sorted.lookup name) := by
  obtain ⟨read, unrepeated⟩ := shows
  cases unrepeated with
  | object once each =>
      obtain ⟨named, sorted, rfl, perm, apart, named_members⟩ := exists_of_value_object read once
      have shown : List.Forall₂ (Named (Shows depth)) members named :=
        Sequence.forall₂_imp_of_mem (fun member present _ named =>
          ⟨named.1, named.2, each member present⟩) named_members
      obtain ⟨fields, known, same, byName, agrees⟩ := Fields.exists_ofTree distinct shown apart
      refine ⟨sorted, fields, rfl, (perm.map Prod.fst).nodup_iff.mpr apart, known, same, byName, ?_⟩
      intro name member
      rw [lookup_eq_of_perm apart perm, same]
      exact agrees name member

/-- What an array shows is an array of what its items show. -/
theorem Shows.exists_items {depth : Nat} {items : List (Tree τ ν)} {json : Json}
    (shows : Shows (depth + 1) (.array items) json) :
    ∃ values, json = .array values ∧ List.Forall₂ (Shows depth) items values := by
  obtain ⟨read, unrepeated⟩ := shows
  cases unrepeated with
  | array each =>
      rw [Tree.value] at read
      obtain ⟨values, values_items, rfl⟩ := valuesOnto_eq_ok_iff.mp read
      exact ⟨values, rfl, Sequence.forall₂_imp_of_mem
        (fun item present _ value => ⟨value, each item present⟩) values_items⟩

/-- No name is twice in an object that is shown. -/
theorem Shows.nodup {depth : Nat} {tree : Tree τ ν} {sorted : List (String × Json)}
    (shows : Shows depth tree (.object sorted)) : (sorted.map Prod.fst).Nodup := by
  obtain ⟨_, rfl⟩ := exists_of_value_eq_object shows.value
  cases depth with
  | zero =>
      have impossible := shows.value
      rw [Tree.value] at impossible
      cases impossible
  | succ depth =>
      obtain ⟨_, _, ⟨⟩, apart, _⟩ := shows.exists_fields List.nodup_nil
      exact apart

/-! ### Single fields -/

/-- A value, unless it is null. -/
def present? : Json → Option Json
  | .null => none
  | json => some json

/-- What an object has under a name. Null is nothing. -/
def member? (members : List (String × Json)) (name : String) : Option Json :=
  (members.lookup name).bind present?

/-- What is not null is there. -/
theorem present?_eq_self {json : Json} (given : json ≠ .null) : present? json = some json := by
  cases json with
  | null => exact (given rfl).elim
  | bool | number | text | array | object => rfl

/-- An optional value is nothing where null stands. -/
theorem optional_value {depth : Nat} {tree : Tree τ ν} {json : Json}
    (read : Tree.value depth tree = .ok json) :
    Shape.optional .value depth tree = .ok (present? json) := by
  by_cases nothing : tree = .null
  · subst nothing
    rw [Tree.value] at read
    cases read
    rw [Shape.optional]
    rfl
  · have given : json ≠ .null := by
      rintro rfl
      exact nothing (eq_null_of_value read)
    rw [Shape.optional, Shape.value, read, present?_eq_self given]
    · rfl
    · exact nothing

namespace Fields

variable {fields : Fields τ ν} {name : String} {held : Option Json}
  (agree : Option.Rel (Shows fields.depth) (fields.get? name) held)

include agree

/-- A field with null as its default is null where it is absent. -/
theorem withDefault_null :
    fields.withDefault name .null .value = .ok ((held.bind present?).getD .null) := by
  rw [withDefault]
  generalize fields.get? name = given at agree
  cases agree with
  | none => rfl
  | @some tree json shows =>
      refine shows.value.trans ?_
      by_cases nothing : json = .null
      · rw [nothing]
        rfl
      · rw [Option.bind_some, present?_eq_self nothing]
        rfl

/-- A field that may be absent or null is what is held there, if it is not null. -/
theorem withDefault_optional :
    fields.withDefault name none (.optional .value) = .ok (held.bind present?) := by
  rw [withDefault]
  generalize fields.get? name = given at agree
  cases agree with
  | none => rfl
  | some shows => exact optional_value shows.value

/-- By name, an optional field is what is held there, if it is not null. -/
theorem optional_eq (byName : fields.isPositional = false) :
    fields.optional name .value = .ok (held.bind present?) := by
  rw [Fields.optional, byName]
  generalize fields.get? name = given at agree
  cases agree with
  | none => rfl
  | some shows => exact optional_value shows.value

end Fields

/-! ### Source texts -/

/-- A text spells an object with these members, and no object in it repeats a name. -/
structure SpellsObject (bytes : List UInt8) (members : List (String × Json)) : Prop where
  read : parse bytes = .ok (.object members)
  unrepeated : ∀ tree, Syntax.parse bytes = .ok tree → tree.Unrepeated

/-- The text of a tree that shows an object spells it. -/
theorem SpellsObject.ofTree {bytes : List UInt8} {members : List (String × Json)} {tree : Syntax}
    (parsed : Syntax.parse bytes = .ok tree) (shows : Shows maxDepth tree (.object members)) :
    SpellsObject bytes members where
  read := by
    rw [parse, parseWith, parsed]
    exact shows.value
  unrepeated other again := by
    rw [parsed] at again
    cases again
    exact shows.unrepeated

/-- A text that spells an object has a tree that shows it. -/
theorem SpellsObject.exists_shows {bytes : List UInt8} {members : List (String × Json)}
    (spells : SpellsObject bytes members) :
    ∃ tree, Syntax.parse bytes = .ok tree ∧ Shows maxDepth tree (.object members) := by
  have read := spells.read
  rw [parse, parseWith] at read
  cases found : Syntax.parse bytes with
  | error fault =>
      rw [found] at read
      cases read
  | ok tree =>
      rw [found] at read
      exact ⟨tree, rfl, read, spells.unrepeated tree found⟩

end LedgerClient.Json
