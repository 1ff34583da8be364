import LedgerClient.Text.Positional

/-! # Bytes of a fixed width

Keys, hashes and signatures are byte strings whose width never varies, so the
width is part of their type. Numbers on the wire are little-endian: the
encoding at a width and the reading of a byte list are inverse to each other
(`LittleEndian.decode_encode`, `LittleEndian.encode_decode`).
-/

namespace LedgerClient

/-- A byte string of exactly `width` bytes. -/
structure Bytes (width : Nat) where
  /-- The bytes, first to last. -/
  toList : List UInt8
  /-- There are as many as the width says. -/
  length_toList : toList.length = width
deriving DecidableEq

namespace Bytes

variable {width : Nat}

attribute [simp] length_toList

/-- Two byte strings with the same bytes are the same. -/
@[ext] theorem ext {first second : Bytes width} (same : first.toList = second.toList) :
    first = second := by
  cases first
  cases second
  cases same
  rfl

/-- A byte list, provided that it has the width. -/
def ofList? (width : Nat) (bytes : List UInt8) : Option (Bytes width) :=
  if fits : bytes.length = width then some ⟨bytes, fits⟩ else none

@[simp] theorem ofList?_toList (value : Bytes width) : ofList? width value.toList = some value := by
  simp [ofList?]

theorem ofList?_eq_some_iff {bytes : List UInt8} {value : Bytes width} :
    ofList? width bytes = some value ↔ value.toList = bytes := by
  constructor
  · intro found
    unfold ofList? at found
    split at found
    · cases found
      rfl
    · cases found
  · rintro rfl
    exact ofList?_toList value

theorem ofList?_eq_none_iff {bytes : List UInt8} :
    ofList? width bytes = none ↔ bytes.length ≠ width := by
  simp [ofList?]

/-- The same byte in every position. -/
def replicate (width : Nat) (byte : UInt8) : Bytes width :=
  ⟨List.replicate width byte, List.length_replicate⟩

/-- All bytes zero. -/
def zero (width : Nat) : Bytes width := replicate width 0

/-- Whether every byte is zero. -/
def isZero (value : Bytes width) : Bool := value.toList.all (· == 0)

theorem isZero_iff (value : Bytes width) : value.isZero = true ↔ value = zero width := by
  constructor
  · intro allZero
    apply Bytes.ext
    rw [zero, replicate, List.eq_replicate_iff]
    refine ⟨value.length_toList, fun byte member => ?_⟩
    simpa using List.all_eq_true.1 allZero byte member
  · rintro rfl
    simp [isZero, zero, replicate]

/-- Byte strings are ordered by their first difference. -/
instance : Ord (Bytes width) := ⟨fun first second => compare first.toList second.toList⟩

end Bytes

namespace LittleEndian

/-- The low `8 * width` bits of a number, least significant byte first. -/
def encode : Nat → Nat → List UInt8
  | 0, _ => []
  | width + 1, n => UInt8.ofNat (n % 256) :: encode width (n / 256)

/-- The number that a byte list spells, least significant byte first. -/
def decode : List UInt8 → Nat
  | [] => 0
  | byte :: rest => byte.toNat + 256 * decode rest

@[simp] theorem length_encode (width n : Nat) : (encode width n).length = width := by
  induction width generalizing n with
  | zero => rfl
  | succ width ih => simp [encode, ih]

theorem decode_lt (bytes : List UInt8) : decode bytes < 256 ^ bytes.length := by
  induction bytes with
  | nil => simp [decode]
  | cons byte rest ih =>
    have small := byte.toNat_lt
    simp only [decode, List.length_cons, Nat.pow_succ]
    omega

theorem decode_encode {width n : Nat} (fits : n < 256 ^ width) : decode (encode width n) = n := by
  induction width generalizing n with
  | zero =>
    simp only [Nat.pow_zero] at fits
    simp only [encode, decode]
    omega
  | succ width ih =>
    have step : n / 256 < 256 ^ width := by
      rw [Nat.pow_succ] at fits
      omega
    have low : (UInt8.ofNat (n % 256)).toNat = n % 256 := by
      simp
    simp only [encode, decode, ih step, low]
    omega

theorem encode_decode (bytes : List UInt8) : encode bytes.length (decode bytes) = bytes := by
  induction bytes with
  | nil => rfl
  | cons byte rest ih =>
    have small := byte.toNat_lt
    have low : (byte.toNat + 256 * decode rest) % 256 = byte.toNat := by omega
    have high : (byte.toNat + 256 * decode rest) / 256 = decode rest := by omega
    simp [encode, decode, low, high, ih]

end LittleEndian

end LedgerClient
