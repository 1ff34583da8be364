import LedgerClient.Bytes

/-! # Block digests

A message is padded to whole blocks of sixteen words, and the blocks are mixed
one after the other into eight words. The words, big-endian, are the digest. What
one digest has of its own (the width of a word, its constants, its ways to mix
the bits of a word) is a `Scheme`.
-/

namespace LedgerClient.Digest

/-- What one block digest has of its own, over words of type `Word`. -/
structure Scheme (Word : Type) where
  /-- Bytes in a word. -/
  wordSize : Nat
  ofNat : Nat → Word
  toNat : Word → Nat
  /-- Mixes the first of the eight words. -/
  mixFirst : Word → Word
  /-- Mixes the fifth of the eight words. -/
  mixFifth : Word → Word
  /-- Mixes the message word fifteen places back. -/
  scheduleEarly : Word → Word
  /-- Mixes the message word two places back. -/
  scheduleLate : Word → Word
  /-- The words that the mixing starts from. -/
  initial : List Word
  /-- One constant for each round. -/
  constants : List Word

/-- The eight words between two rounds. -/
structure State (Word : Type) where
  a : Word
  b : Word
  c : Word
  d : Word
  e : Word
  f : Word
  g : Word
  h : Word

/-- The words of a state in order. -/
def State.toList {Word : Type} (s : State Word) : List Word :=
  [s.a, s.b, s.c, s.d, s.e, s.f, s.g, s.h]

namespace Scheme

variable {Word : Type} [Add Word] [XorOp Word] [AndOp Word] [Complement Word] (scheme : Scheme Word)

/-- Bytes in a block. -/
def blockSize : Nat := 16 * scheme.wordSize

/-- The state with the given words; words that are missing are zero. -/
def stateOfList (words : List Word) : State Word :=
  let word := fun i => words.getD i (scheme.ofNat 0)
  ⟨word 0, word 1, word 2, word 3, word 4, word 5, word 6, word 7⟩

/-- One round with its constant and its message word. -/
@[specialize] def round (s : State Word) (constant word : Word) : State Word :=
  let choice := (s.e &&& s.f) ^^^ (~~~s.e &&& s.g)
  let majority := (s.a &&& s.b) ^^^ (s.a &&& s.c) ^^^ (s.b &&& s.c)
  let moved := s.h + scheme.mixFifth s.e + choice + constant + word
  ⟨moved + (scheme.mixFirst s.a + majority), s.a, s.b, s.c, s.d + moved, s.e, s.f, s.g⟩

/-- The message word that follows a window of sixteen. -/
@[specialize] def nextWord (window : List Word) : Word :=
  let word := fun i => window.getD i (scheme.ofNat 0)
  word 0 + scheme.scheduleEarly (word 1) + word 9 + scheme.scheduleLate (word 14)

/-- All rounds. The window holds the next sixteen message words and moves on by
one word a round. -/
@[specialize] def rounds (s : State Word) (window : List Word) : List Word → State Word
  | [] => s
  | constant :: later =>
    rounds (scheme.round s constant (window.headD (scheme.ofNat 0)))
      (window.tail ++ [scheme.nextWord window]) later

/-- Mix one block of sixteen words into the state. -/
@[specialize] def compress (s : State Word) (block : List Word) : State Word :=
  scheme.stateOfList
    (List.zipWith (· + ·) s.toList (scheme.rounds s block scheme.constants).toList)

/-- The words of a block, big-endian. -/
def blockWords (block : List UInt8) : List Word :=
  (List.range 16).map fun i =>
    let bytes := (block.drop (i * scheme.wordSize)).take scheme.wordSize
    scheme.ofNat (LittleEndian.decode bytes.reverse)

/-- Mix the given number of blocks into the state. -/
@[specialize] def absorb : Nat → State Word → List UInt8 → State Word
  | 0, s, _ => s
  | blocks + 1, s, bytes =>
    let block := bytes.take scheme.blockSize
    absorb blocks (scheme.compress s (scheme.blockWords block)) (bytes.drop scheme.blockSize)

/-- The message followed by a one bit, the fewest zero bits that complete a block,
and its length in bits as a number of two words. -/
def padded (message : List UInt8) : List UInt8 :=
  let size := message.length
  let lengthSize := 2 * scheme.wordSize
  let zeros := (scheme.blockSize - (size + 1 + lengthSize) % scheme.blockSize) % scheme.blockSize
  message ++ 0x80 :: List.replicate zeros 0 ++ (LittleEndian.encode lengthSize (size * 8)).reverse

/-- The bytes of a word, most significant first. -/
def wordBytes (word : Word) : List UInt8 :=
  (LittleEndian.encode scheme.wordSize (scheme.toNat word)).reverse

/-- The digest of a message. -/
@[specialize] def digest (message : List UInt8) : List UInt8 :=
  let bytes := scheme.padded message
  let blocks := bytes.length / scheme.blockSize
  (scheme.absorb blocks (scheme.stateOfList scheme.initial) bytes).toList.flatMap scheme.wordBytes

/-- A digest is eight words wide. -/
@[simp] theorem length_digest (message : List UInt8) :
    (scheme.digest message).length = 8 * scheme.wordSize := by
  simp [digest, State.toList, wordBytes]
  omega

end Scheme

end LedgerClient.Digest
