import LedgerClient.Decimal.Binary64

/-! # JSON trees

A tree is JSON with texts of one type and numbers of another. In a value both
have their meaning; in the tree of a source text (`Json.Syntax`) both are as they
were spelled, so that what is never looked at need not have a meaning.
-/

namespace LedgerClient

namespace Json

/-- JSON with texts in `τ` and numbers in `ν`. -/
inductive Tree (τ ν : Type) where
  | null
  | bool (b : Bool)
  | number (n : ν)
  | text (t : τ)
  | array (items : List (Tree τ ν))
  | object (members : List (τ × Tree τ ν))

/-- A number: an integer of 64 bits, with or without sign, or a double. -/
inductive Number where
  | integer (n : Int)
  | double (x : Binary64)
deriving DecidableEq

/-- Why JSON is refused. -/
inductive Fault where
  /-- The source text is not JSON. -/
  | badSyntax
  /-- A text is not UTF-8, or has half a surrogate pair. -/
  | badText
  /-- A number is too large for a double. -/
  | numberOutOfRange
  /-- Arrays and objects are nested too deeply. -/
  | tooDeep
  /-- A value is not what is wanted in its place. -/
  | wrongShape (wanted : String)
  | missingField (name : String)
  | repeatedField (name : String)
deriving DecidableEq

/-- The wording of a fault. -/
def Fault.message : Fault → String
  | badSyntax => "malformed JSON"
  | badText => "malformed text"
  | numberOutOfRange => "number out of range"
  | tooDeep => "nested too deeply"
  | wrongShape wanted => s!"expected {wanted}"
  | missingField name => s!"missing field {name}"
  | repeatedField name => s!"repeated field {name}"

end Json

/-- A JSON value. The members of an object are sorted by name, and no name occurs
twice. -/
abbrev Json := Json.Tree String Json.Number

namespace Json

/-- A member set among sorted members; a value that the name had is replaced. -/
def insertMember {α : Type} (name : String) (value : α) : List (String × α) → List (String × α)
  | [] => [(name, value)]
  | member :: rest =>
    if name < member.1 then (name, value) :: member :: rest
    else if name = member.1 then (name, value) :: rest
    else member :: insertMember name value rest

/-- The object of some members, of which the last of a name counts. -/
def ofMembers (members : List (String × Json)) : Json :=
  .object (members.foldl (fun sorted member => insertMember member.1 member.2 sorted) [])

/-- A natural number as JSON. -/
def ofNat (n : Nat) : Json := .number (.integer n)

/-- The number of a value, if it is an integer of 64 bits without sign. -/
def asWord? : Json → Option UInt64
  | .number (.integer n) => if 0 ≤ n then some (UInt64.ofNat n.toNat) else none
  | _ => none

end Json

end LedgerClient
