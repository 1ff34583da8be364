import LedgerClient.Net.Domain.CombiningClass
import LedgerClient.Net.Domain.Composition

/-! # The normal form of names

Two texts that look the same may be spelled with different characters. In the normal
form marks stand by ascending class, and letters are one with their marks where there
is such a character.
-/

namespace LedgerClient.Domain

/-- The letters and marks that a character is made of. No character has more parts
than the first argument allows for. -/
def allParts : Nat → Char → List Char
  | 0, c => [c]
  | depth + 1, c =>
    match parts? c with
    | none => [c]
    | some (letter, mark) => allParts depth letter ++ allParts depth mark

/-- How often a character may be taken apart. -/
def partDepth : Nat := 4

/-- Marks by ascending class; marks of one class keep their order. -/
def orderMarks (marks : List Char) : List Char :=
  marks.mergeSort fun a b => combiningClass a ≤ combiningClass b

/-- Order the marks after each letter. The marks under way are in reverse. -/
def orderOnto (ordered marks : List Char) : List Char → List Char
  | [] => ordered.reverse ++ orderMarks marks.reverse
  | c :: rest =>
    if combiningClass c = 0 then
      orderOnto (c :: ((orderMarks marks.reverse).reverse ++ ordered)) [] rest
    else orderOnto ordered (c :: marks) rest

/-- A letter that marks may still become one with, and the marks after it. -/
structure Cluster where
  letter : Option Char
  /-- The marks that stand on their own, in reverse. -/
  marks : List Char

/-- The characters of a cluster, in reverse. -/
def Cluster.reversed (cluster : Cluster) : List Char := cluster.marks ++ cluster.letter.toList

/-- Whether a character of some class can become one with the letter of a cluster:
nothing stands between that is of the same class or a higher one. -/
def Cluster.isOpen (cluster : Cluster) (c : Char) : Bool :=
  match cluster.marks with
  | [] => true
  | last :: _ => combiningClass last < combiningClass c

/-- Put letters and marks together. What is done comes in reverse. -/
def composeOnto (done : List Char) (cluster : Cluster) : List Char → List Char
  | [] => (cluster.reversed ++ done).reverse
  | c :: rest =>
    match cluster.letter.bind fun letter => compose? letter c, cluster.isOpen c with
    | some composed, true => composeOnto done { cluster with letter := some composed } rest
    | _, _ =>
      if combiningClass c = 0 then composeOnto (cluster.reversed ++ done) ⟨some c, []⟩ rest
      else composeOnto done { cluster with marks := c :: cluster.marks } rest

/-- The normal form of the characters of a name. -/
def normalForm (cs : List Char) : List Char :=
  composeOnto [] ⟨none, []⟩ (orderOnto [] [] (cs.flatMap (allParts partDepth)))

end LedgerClient.Domain
