/-! # Names of all scripts in ASCII

A label that begins with `xn--` spells characters beyond ASCII. The plain characters
come first. Then digits say how far it is to the next character, counted over all
code points and all places between the characters so far. A number ends with a
digit below a threshold, and the thresholds follow the sizes of the numbers before.
-/

namespace LedgerClient.Punycode

/-- A label as far as it is read, and the number under way. -/
structure Progress where
  label : List Char
  codePoint : Nat
  place : Nat
  bias : Nat
  /-- Whether no number has been read. -/
  isFirst : Bool
  /-- The number under way and the worth of its next digit. -/
  distance : Nat
  worth : Nat
  /-- Thirty-six for each digit of the number, the next one included. -/
  position : Nat

/-- The number of a digit. -/
def digit? (c : Char) : Option Nat :=
  if c.isDigit then some (c.toNat - 22)
  else if c.isLower then some (c.toNat - 97)
  else if c.isUpper then some (c.toNat - 65)
  else none

/-- Digits below the threshold end a number. -/
def threshold (progress : Progress) : Nat :=
  max 1 (min 26 (progress.position - progress.bias))

/-- Scale a number down; each round adds to the bias. -/
def scale (rounds delta : Nat) : Nat :=
  if 455 < delta then scale (rounds + 1) (delta / 35)
  else 36 * rounds + 36 * delta / (delta + 38)
termination_by delta
decreasing_by omega

/-- The bias after a number, given how many characters there are now. -/
def adapt (isFirst : Bool) (distance count : Nat) : Nat :=
  let damped := if isFirst then distance / 700 else distance / 2
  scale 0 (damped + damped / count)

/-- Put the character in that a number leads to. -/
def insert? (distance : Nat) (progress : Progress) : Option Progress :=
  let count := progress.label.length + 1
  let total := progress.place + distance
  let codePoint := progress.codePoint + total / count
  if h : codePoint.isValidChar then
    let c : Char := Char.ofNatAux codePoint h
    some { label := progress.label.insertIdx (total % count) c
           codePoint, place := total % count + 1
           bias := adapt progress.isFirst distance count, isFirst := false
           distance := 0, worth := 1, position := 36 }
  else none

/-- Read one digit. -/
def read? (progress : Progress) (c : Char) : Option Progress := do
  let digit ← digit? c
  let distance := progress.distance + digit * progress.worth
  if digit < threshold progress then insert? distance progress
  else return { progress with
    distance, worth := progress.worth * (36 - threshold progress)
    position := progress.position + 36 }

/-- The characters up to the last hyphen, and the digits after it. A hyphen right at
the front is no such mark, and no digit either. -/
def split (cs : List Char) : List Char × List Char :=
  let digits := (cs.reverse.takeWhile (· != '-')).reverse
  let label := cs.take (cs.length - digits.length - 1)
  if label.isEmpty then ([], cs) else (label, digits)

/-- What follows `xn--` in a label, read: the characters up to the last hyphen, and
then at least one number. -/
def decode? (cs : List Char) : Option (List Char) := do
  let (label, digits) := split cs
  let last ← digits.foldlM read? ⟨label, 128, 0, 72, true, 0, 1, 36⟩
  if last.isFirst || 36 < last.position then none else return last.label

example : decode? "bcher-kva".toList = some "bücher".toList := by decide +kernel

end LedgerClient.Punycode
