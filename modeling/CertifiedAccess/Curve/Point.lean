import CertifiedAccess.Bytes
import CertifiedAccess.Curve.Field

/-!
Points of the twisted Edwards curve `-x² + y² = 1 + d x² y²`, held as `(X : Y : Z : T)` with
`x = X / Z`, `y = Y / Z` and `T = X Y / Z`, and their 32-octet form.
-/
namespace CertifiedAccess.Curve
open CertifiedAccess.Field

/-- The curve's constant, `-121665 / 121666`. -/
def d : Nat := mul (neg 121665) (inverse 121666)

def twiceD : Nat := add d d

structure Point where
  x : Nat
  y : Nat
  z : Nat
  t : Nat

namespace Point

def ofAffine (x y : Nat) : Point := ⟨x, y, 1, mul x y⟩

def zero : Point := ⟨0, 1, 1, 0⟩

/-- The complete addition law, valid for every pair of points. -/
def add (p q : Point) : Point :=
  let a := mul (sub p.y p.x) (sub q.y q.x)
  let b := mul (Field.add p.y p.x) (Field.add q.y q.x)
  let c := mul (mul p.t twiceD) q.t
  let e := mul (Field.add p.z p.z) q.z
  let f := sub b a
  let g := sub e c
  let h := Field.add e c
  let i := Field.add b a
  ⟨mul f g, mul h i, mul g h, mul f i⟩

/-- Adding a point to itself takes fewer products. -/
def double (p : Point) : Point :=
  let a := square p.x
  let b := square p.y
  let c := let s := square p.z; Field.add s s
  let h := Field.add a b
  let e := sub h (square (Field.add p.x p.y))
  let g := sub a b
  let f := Field.add c g
  ⟨mul e f, mul g h, mul f g, mul e h⟩

def neg (p : Point) : Point := ⟨Field.neg p.x, p.y, p.z, Field.neg p.t⟩

/-- Adds `n` times `p` to `acc`, taking the bits of `n` from the lowest. -/
def timesAfter (acc : Point) (n : Nat) (p : Point) : Point :=
  if n = 0 then acc
  else timesAfter (if n % 2 = 1 then acc.add p else acc) (n / 2) p.double
termination_by n

def times (n : Nat) (p : Point) : Point := timesAfter zero n p

/-- Whether this is the neutral point, whatever its `z`. -/
def isZero (p : Point) : Bool := p.x == 0 && p.y == p.z

/-- Whether the point's order divides the cofactor eight. -/
def isSmallOrder (p : Point) : Bool := p.double.double.double.isZero

/-- The `y` coordinate, least octet first, with the lowest bit of `x` in the highest bit. -/
def compress (p : Point) : Bytes :=
  let w := inverse p.z
  let x := mul p.x w
  let y := mul p.y w
  Bytes.littleEndian 32 (y + (x % 2) <<< 255)

/-- The point whose form these 32 octets are. A `y` that is not reduced is taken modulo the prime, and
the sign bit is of no account where `x` is zero. -/
def decompress? (bytes : Bytes) : Option Point :=
  let n := Bytes.ofLittleEndian bytes
  let y := n % (1 <<< 255) % prime
  let yy := square y
  match sqrtRatio? (sub yy 1) (Field.add (mul d yy) 1) with
  | none => none
  | some root => some (ofAffine (if root % 2 = n >>> 255 then root else Field.neg root) y)

@[simp] theorem length_compress (p : Point) : p.compress.length = 32 := by
  simp [compress]

/-- The base point: `y = 4 / 5` with an even `x`. -/
def base : Point :=
  let y := mul 4 (inverse 5)
  (decompress? (Bytes.littleEndian 32 y)).getD zero

end Point
end CertifiedAccess.Curve
