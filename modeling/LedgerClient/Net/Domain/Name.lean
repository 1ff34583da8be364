import LedgerClient.Net.Domain.Label

/-! # Names of hosts

A name is read with some good will: every form of a character counts as the plain one,
and ideographic points are points too. What is left must make labels, and where some
label turns the direction of writing, each must keep to one.
-/

namespace LedgerClient.Domain

/-- The plain characters, in normal form, that the characters of a name stand for. -/
def plain? (cs : List Char) : Option (List Char) := do
  let spelled ← cs.mapM spell?
  let name := normalForm spelled.flatten
  if name.any isForbidden then none else some name

/-- The name that characters spell. -/
def name? (cs : List Char) : Option (List Char) := do
  let name ← plain? cs
  let labels ← (name.splitOn '.').mapM label?
  if labels.any turns && !labels.all isOneWay then none else some name

end LedgerClient.Domain
