import LedgerClient.Json.Syntax

/-! # Values of known shape

A decoder reads a value of a type from a tree, be it the tree of a source text or
a value. Only what it looks at needs a meaning: in a source text the values of
unknown fields may be out of range or nested at any depth. A record is an object
with its fields by name, or an array with its fields in order.
-/

namespace LedgerClient.Json

/-- How the leaves of a tree are given their meaning. -/
class Meaning (τ ν : Type) where
  text : τ → Except Fault String
  number : ν → Except Fault Number

/-- The leaves of a value have their meaning. -/
instance : Meaning String Number := ⟨.ok, .ok⟩

/-- The leaves of a source text have to be read. -/
instance : Meaning RawText Literal := ⟨RawText.text, Literal.number⟩

/-- How deeply arrays and objects may be nested. -/
def maxDepth : Nat := 127

/-- A way to read a value from a tree, in which arrays and objects may be nested so
deeply. -/
abbrev Shape (τ ν α : Type) := Nat → Tree τ ν → Except Fault α

variable {τ ν α : Type} [Meaning τ ν]

namespace Tree

mutual

/-- The value of a tree. -/
def value : Shape τ ν Json
  | _, .null => .ok .null
  | _, .bool b => .ok (.bool b)
  | _, .number n => (Meaning.number τ n).map .number
  | _, .text t => (Meaning.text ν t).map .text
  | 0, .array _ => .error .tooDeep
  | 0, .object _ => .error .tooDeep
  | depth + 1, .array items => valuesOnto depth [] items
  | depth + 1, .object members => membersOnto depth [] members

/-- The array of some items, after values already found in reverse. -/
def valuesOnto (depth : Nat) (found : List Json) : List (Tree τ ν) → Except Fault Json
  | [] => .ok (.array found.reverse)
  | item :: rest =>
    match value depth item with
    | .ok next => valuesOnto depth (next :: found) rest
    | .error fault => .error fault

/-- The object of some members, after members already found in reverse. -/
def membersOnto (depth : Nat) (found : List (String × Json)) :
    List (τ × Tree τ ν) → Except Fault Json
  | [] => .ok (ofMembers found.reverse)
  | (name, item) :: rest =>
    match Meaning.text ν name, value depth item with
    | .ok name, .ok next => membersOnto depth ((name, next) :: found) rest
    | .error fault, _ => .error fault
    | _, .error fault => .error fault

end

end Tree

namespace Shape

/-- Any value. -/
def value : Shape τ ν Json := Tree.value

/-- A text. -/
def text : Shape τ ν String
  | _, .text t => Meaning.text ν t
  | _, _ => .error (.wrongShape "a text")

/-- A truth value. -/
def bool : Shape τ ν Bool
  | _, .bool b => .ok b
  | _, _ => .error (.wrongShape "a truth value")

/-- An integer in a range. -/
def integer (least greatest : Int) : Shape τ ν Int
  | _, .number n =>
    match Meaning.number τ n with
    | .ok (.integer n) =>
      if least ≤ n ∧ n ≤ greatest then .ok n else .error (.wrongShape "an integer in range")
    | .ok (.double _) => .error (.wrongShape "an integer")
    | .error fault => .error fault
  | _, _ => .error (.wrongShape "an integer")

/-- An integer of 64 bits without sign. -/
def word : Shape τ ν UInt64 := fun depth tree =>
  (integer 0 (2 ^ 64 - 1) depth tree).map fun n => UInt64.ofNat n.toNat

/-- A value, or nothing. -/
def optional (shape : Shape τ ν α) : Shape τ ν (Option α)
  | _, .null => .ok none
  | depth, tree => (shape depth tree).map some

/-- Items of one shape, after items already read in reverse. -/
def itemsOnto (shape : Shape τ ν α) (depth : Nat) (found : List α) :
    List (Tree τ ν) → Except Fault (List α)
  | [] => .ok found.reverse
  | item :: rest =>
    match shape depth item with
    | .ok next => itemsOnto shape depth (next :: found) rest
    | .error fault => .error fault

/-- An array of one shape. -/
def list (shape : Shape τ ν α) : Shape τ ν (List α)
  | 0, .array _ => .error .tooDeep
  | depth + 1, .array items => itemsOnto shape depth [] items
  | _, _ => .error (.wrongShape "an array")

/-- One of some names, as a text or as the only member of an object that holds
nothing. -/
def choice (choices : List (String × α)) : Shape τ ν α := fun depth tree => do
  let name ← match depth, tree with
    | _, .text t => Meaning.text ν t
    | 0, .object _ => throw .tooDeep
    | _ + 1, .object [(name, .null)] => Meaning.text ν name
    | _, _ => throw (.wrongShape "a name")
  match choices.lookup name with
  | some found => return found
  | none => throw (.wrongShape "a known name")

end Shape

/-- The fields of a record, each with the tree that was given for it, if one was. -/
structure Fields (τ ν : Type) where
  slots : List (String × Option (Tree τ ν))
  /-- Whether the fields were given by their place. -/
  isPositional : Bool
  /-- How deeply their values may be nested. -/
  depth : Nat

namespace Fields

/-- Give a field its value, which it must not have yet. A name that is not among
the fields is passed over. -/
def assign (name : String) (tree : Tree τ ν) :
    List (String × Option (Tree τ ν)) → Except Fault (List (String × Option (Tree τ ν)))
  | [] => .ok []
  | (field, given) :: rest =>
    if field = name then
      match given with
      | none => .ok ((field, some tree) :: rest)
      | some _ => .error (.repeatedField name)
    else (assign name tree rest).map ((field, given) :: ·)

/-- Give the fields the values that members have. -/
def assignAll (slots : List (String × Option (Tree τ ν))) :
    List (τ × Tree τ ν) → Except Fault (List (String × Option (Tree τ ν)))
  | [] => .ok slots
  | (name, tree) :: rest =>
    match (Meaning.text ν name).bind fun name => assign name tree slots with
    | .ok next => assignAll next rest
    | .error fault => .error fault

/-- The fields of a record, from an object or an array. An array must not be longer
than the record. -/
def ofTree (names : List String) : Shape τ ν (Fields τ ν)
  | 0, _ => .error .tooDeep
  | depth + 1, .object members =>
    (assignAll (names.map fun name => (name, none)) members).map fun slots =>
      ⟨slots, false, depth⟩
  | depth + 1, .array items =>
    if names.length < items.length then .error (.wrongShape "fewer items")
    else
      let given := items.map some ++ List.replicate (names.length - items.length) none
      .ok ⟨names.zip given, true, depth⟩
  | _, _ => .error (.wrongShape "a record")

/-- What was given for a field. -/
def get? (fields : Fields τ ν) (name : String) : Option (Tree τ ν) :=
  (fields.slots.lookup name).join

/-- A field that must be given. -/
def required (fields : Fields τ ν) (name : String) (shape : Shape τ ν α) : Except Fault α :=
  match fields.get? name with
  | some tree => shape fields.depth tree
  | none => .error (.missingField name)

/-- A field with a value for when it is not given. -/
def withDefault (fields : Fields τ ν) (name : String) (default : α) (shape : Shape τ ν α) :
    Except Fault α :=
  match fields.get? name with
  | some tree => shape fields.depth tree
  | none => .ok default

/-- A field that may be left out where fields are given by name, and not where they
are given by place. -/
def optional (fields : Fields τ ν) (name : String) (shape : Shape τ ν α) :
    Except Fault (Option α) :=
  match fields.get? name with
  | some tree => Shape.optional shape fields.depth tree
  | none => if fields.isPositional then .error (.missingField name) else .ok none

end Fields

/-- The value that a source text spells. -/
def parseWith (shape : Shape RawText Literal α) (bytes : List UInt8) : Except Fault α := do
  shape maxDepth (← Syntax.parse bytes)

/-- The value that a JSON value has in a shape. -/
def decodeWith (shape : Shape String Number α) (json : Json) : Except Fault α :=
  shape maxDepth json

/-- The JSON value of a source text. -/
def parse (bytes : List UInt8) : Except Fault Json := parseWith Shape.value bytes

end LedgerClient.Json
