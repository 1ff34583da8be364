import LedgerClient.Bytes
import LedgerClient.Curve.Field

/-! # Points of the curve −x² + y² = 1 + d·x²·y²

A point is kept with four coordinates, so that adding needs no division: `x / z`
and `y / z` are the plane coordinates and `t` is their product times `z`. The
addition holds for all pairs of points, equal ones included. A compressed point is
`y` in 32 bytes, little-endian, with the sign of `x` in the top bit.
-/

namespace LedgerClient.Curve

/-- A point, up to a common factor of its coordinates. -/
structure Point where
  x : Coordinate
  y : Coordinate
  z : Coordinate
  t : Coordinate

/-- The number of points that the base point generates, a prime. -/
def groupOrder : Nat := 2 ^ 252 + 27742317777372353535851937790883648493

namespace Point

/-- The constant of the curve's equation. -/
def d : Coordinate :=
  Fin.ofNat _ 0x52036cee2b6ffe738cc740797779e89800700a4d4141d8ab75eb4dca135978a3

/-- The point with the given plane coordinates. -/
def ofPlane (x y : Coordinate) : Point := ⟨x, y, 1, x * y⟩

/-- The neutral point. -/
def zero : Point := ofPlane 0 1

/-- The base point. -/
def base : Point :=
  ofPlane
    (Fin.ofNat _ 0x216936d3cd6e53fec0a4e231fdd6dc5c692cc7609525a7b2c9562d608f25d51a)
    (Fin.ofNat _ 0x6666666666666666666666666666666666666666666666666666666666666658)

/-- The sum of two points. -/
def add (p q : Point) : Point :=
  let a := (p.y - p.x) * (q.y - q.x)
  let b := (p.y + p.x) * (q.y + q.x)
  let c := p.t * q.t * (d + d)
  let s := p.z * q.z
  let e := b - a
  let f := s + s - c
  let g := s + s + c
  let h := b + a
  ⟨e * f, g * h, f * g, e * h⟩

/-- The opposite point. -/
def neg (p : Point) : Point := ⟨-p.x, p.y, p.z, -p.t⟩

/-- A point added to itself `n` times, by doubling. -/
def scale (n : Nat) (p : Point) : Point :=
  if n = 0 then zero
  else
    let doubles := scale (n / 2) (p.add p)
    if n % 2 = 1 then p.add doubles else doubles
termination_by n
decreasing_by omega

/-- The sign of `x` takes the bit that a coordinate leaves free. -/
def signBit : Nat := 2 ^ 255

/-- The compressed form of a point. -/
def compress (p : Point) : Bytes 32 :=
  let unit := p.z.inverse
  let y := (p.y * unit).val
  let sign := if (p.x * unit).isNegative then signBit else 0
  ⟨LittleEndian.encode 32 (y + sign), LittleEndian.length_encode 32 _⟩

/-- The point of a compressed form. A `y` at or above the prime is reduced, and a
set sign bit on `x = 0` is passed over; only an `x` that does not exist is
refused. -/
def decompress? (bytes : Bytes 32) : Option Point := do
  let number := LittleEndian.decode bytes.toList
  let y : Coordinate := Fin.ofNat _ (number % signBit)
  let root ← Coordinate.rootOfRatio? (y * y - 1) (d * (y * y) + 1)
  return ofPlane (if signBit ≤ number then -root else root) y

end Point

/-- Whether 32 bytes are the compressed form of a point. -/
def isOnCurve (bytes : Bytes 32) : Bool := (Point.decompress? bytes).isSome

end LedgerClient.Curve
