/-!
Arithmetic modulo the prime `2 ^ 255 - 19`. Residues are natural numbers below it.
-/
namespace CertifiedAccess.Field

def prime : Nat := (1 <<< 255) - 19

def add (a b : Nat) : Nat := (a + b) % prime

def sub (a b : Nat) : Nat := (a + prime - b) % prime

def mul (a b : Nat) : Nat := (a * b) % prime

def square (a : Nat) : Nat := mul a a

def neg (a : Nat) : Nat := (prime - a) % prime

/-- `base` to a power, by squaring; `acc` holds the factors already taken. -/
def powAfter (acc base exponent : Nat) : Nat :=
  if exponent = 0 then acc
  else
    powAfter (if exponent % 2 = 1 then mul acc base else acc) (square base) (exponent / 2)
termination_by exponent

def pow (base exponent : Nat) : Nat := powAfter 1 base exponent

/-- The inverse of a residue other than zero, by Fermat; zero for zero. -/
def inverse (a : Nat) : Nat := pow a (prime - 2)

def sqrtMinusOne : Nat := pow 2 ((prime - 1) / 4)

/-- A root `x` of `x² v = u`, if there is one. For `v` other than zero the candidate `u v³ (u v⁷)^((p-5)/8)`
is such a root up to a factor that is a square root of minus one. -/
def sqrtRatio? (u v : Nat) : Option Nat :=
  let v3 := mul (square v) v
  let v7 := mul (square v3) v
  let x := mul (mul u v3) (pow (mul u v7) ((prime - 5) / 8))
  let check := mul v (square x)
  if check = u then some x
  else if check = neg u then some (mul x sqrtMinusOne)
  else none

end CertifiedAccess.Field
