/-! # Base64 text

Three bytes are four symbols of six bits. The last group is filled up with `=`,
and the bits it leaves unused are zero, so each byte string has one text.
-/

namespace LedgerClient.Base64

/-- The sixty-four symbols, in order of their value. -/
def alphabet : List UInt8 :=
  "ABCDEFGHIJKLMNOPQRSTUVWXYZabcdefghijklmnopqrstuvwxyz0123456789+/".toList.map fun c =>
    UInt8.ofNat c.toNat

/-- The sign that fills up the last group. -/
def pad : UInt8 := 61

/-- Why a text is not Base64. -/
inductive Fault where
  | invalidSymbol (byte : UInt8) (offset : Nat)
  | invalidLength (length : Nat)
  | invalidLastSymbol (byte : UInt8) (offset : Nat)
  | invalidPadding
deriving DecidableEq

/-- The wording of a fault. -/
def Fault.message : Fault → String
  | .invalidSymbol byte offset => s!"Invalid symbol {byte}, offset {offset}."
  | .invalidLength length => s!"Invalid input length: {length}"
  | .invalidLastSymbol byte offset => s!"Invalid last symbol {byte}, offset {offset}."
  | .invalidPadding => "Invalid padding"

/-- The symbol of a six-bit number. -/
def symbol (sextet : Nat) : UInt8 := alphabet.getD sextet pad

/-- The six-bit number of a symbol. -/
def sextet? (byte : UInt8) : Option Nat := alphabet.idxOf? byte

/-- The text of a byte string, after text already written in reverse. -/
def encodeOnto (written : List UInt8) : List UInt8 → List UInt8
  | a :: b :: c :: rest =>
    let group := (a.toNat * 256 + b.toNat) * 256 + c.toNat
    encodeOnto
      (symbol (group % 64) :: symbol (group / 64 % 64) :: symbol (group / 4096 % 64) ::
        symbol (group / 262144) :: written) rest
  | [a, b] =>
    let group := (a.toNat * 256 + b.toNat) * 4
    (pad :: symbol (group % 64) :: symbol (group / 64 % 64) :: symbol (group / 4096) ::
      written).reverse
  | [a] =>
    let group := a.toNat * 16
    (pad :: pad :: symbol (group % 64) :: symbol (group / 64) :: written).reverse
  | [] => written.reverse

/-- The text of a byte string. -/
def encode (bytes : List UInt8) : List UInt8 := encodeOnto [] bytes

/-- The numbers of the symbols from `offset` on, or the first byte that is no
symbol. -/
def sextetsFrom (offset : Nat) (found : List Nat) : List UInt8 → Except Fault (List Nat)
  | [] => .ok found.reverse
  | byte :: rest =>
    match sextet? byte with
    | some sextet => sextetsFrom (offset + 1) (sextet :: found) rest
    | none => .error (.invalidSymbol byte offset)

/-- The bytes of whole groups, after bytes already found in reverse. -/
def regroupOnto (found : List UInt8) : List Nat → List UInt8
  | p :: q :: r :: s :: rest =>
    let group := ((p * 64 + q) * 64 + r) * 64 + s
    regroupOnto
      (UInt8.ofNat (group % 256) :: UInt8.ofNat (group / 256 % 256) ::
        UInt8.ofNat (group / 65536) :: found) rest
  | _ => found.reverse

/-- What the scan of the last group has met: its symbols so far, newest first,
and the number of signs that fill it up. -/
structure LastGroup where
  symbols : List (UInt8 × Nat)
  pads : Nat

/-- Scan the last group, which begins at `start`: two symbols at least before the
first `=`, and no symbol after it. -/
def scanLast (start : Nat) (met : LastGroup) : List UInt8 → Except Fault LastGroup
  | [] => .ok met
  | byte :: rest =>
    let count := met.symbols.length
    if byte = pad then
      if count + met.pads < 2 then .error (.invalidSymbol pad (start + count + met.pads))
      else scanLast start ⟨met.symbols, met.pads + 1⟩ rest
    else if 0 < met.pads then .error (.invalidSymbol pad (start + count))
    else
      match sextet? byte with
      | some sextet => scanLast start ⟨(byte, sextet) :: met.symbols, 0⟩ rest
      | none => .error (.invalidSymbol byte (start + count))

/-- The bytes of the last group: enough symbols, filled up to four, nothing in
the unused bits. -/
def closeLast (start : Nat) (met : LastGroup) : Except Fault (List UInt8) :=
  let count := met.symbols.length
  if count < 2 then .error (.invalidLength (start + count))
  else if count + met.pads ≠ 4 then .error .invalidPadding
  else
    match met.symbols with
    | [(byte, q), (_, p)] =>
      if q % 16 ≠ 0 then .error (.invalidLastSymbol byte (start + 1))
      else .ok [UInt8.ofNat ((p * 64 + q) / 16)]
    | [(byte, r), (_, q), (_, p)] =>
      if r % 4 ≠ 0 then .error (.invalidLastSymbol byte (start + 2))
      else
        let group := ((p * 64 + q) * 64 + r) / 4
        .ok [UInt8.ofNat (group / 256), UInt8.ofNat (group % 256)]
    | [(_, s), (_, r), (_, q), (_, p)] => .ok (regroupOnto [] [p, q, r, s])
    | _ => .error .invalidPadding

/-- Where the last group of a text of this length begins. -/
def lastGroupStart (length : Nat) : Nat :=
  if length % 4 = 0 then length - 4 else length - length % 4

/-- The byte string of a text. A single byte left over after whole groups is
looked at first; then all groups in order. -/
def decode (text : List UInt8) : Except Fault (List UInt8) := do
  let length := text.length
  if length % 4 = 1 then
    if let some stray := text.getLast? then
      if stray ≠ pad ∧ sextet? stray = none then
        throw (.invalidSymbol stray (length - 1))
  if length = 0 then
    return []
  let start := lastGroupStart length
  let sextets ← sextetsFrom 0 [] (text.take start)
  let met ← scanLast start ⟨[], 0⟩ (text.drop start)
  let tail ← closeLast start met
  return regroupOnto [] sextets ++ tail

end LedgerClient.Base64
