import CertifiedAccess.Curve.Point
import CertifiedAccess.Digest.Sha512

/-!
Ed25519: deterministic signatures over the Edwards curve with SHA-512, and their strict verification.
-/
namespace CertifiedAccess.EdDsa
open Curve

def order : Nat := (1 <<< 252) + 27742317777372353535851937790883648493

/-- A number reduced from the digest of some octets. -/
def challenge (bytes : Bytes) : Nat :=
  Bytes.ofLittleEndian (Sha512.digest bytes) % order

/-- The secret scalar: the three lowest bits are cleared, the highest bit too, the one below is set. -/
def scalar (seed : Bytes) : Nat :=
  let n := Bytes.ofLittleEndian ((Sha512.digest seed).take 32)
  n % (1 <<< 254) / 8 * 8 + (1 <<< 254)

/-- The secret octets that go before a message when its nonce is derived. -/
def nonceKey (seed : Bytes) : Bytes :=
  (Sha512.digest seed).drop 32

def publicKey (seed : Bytes) : Bytes :=
  (Point.base.times (scalar seed)).compress

/-- The signature of a message: the nonce's point, then the response. -/
def sign (seed message : Bytes) : Bytes :=
  let a := scalar seed
  let r := challenge (nonceKey seed ++ message)
  let point := (Point.base.times r).compress
  let k := challenge (point ++ publicKey seed ++ message)
  point ++ Bytes.littleEndian 32 ((r + k * a) % order)

/-- Whether 32 octets denote a point of the curve. -/
def denotesPoint (key : Bytes) : Bool :=
  (Point.decompress? key).isSome

/-- Strict verification: the response is reduced, neither point has small order, and the nonce's point is
recomputed to the very octets that were sent. -/
def verify (key message signature : Bytes) : Bool :=
  let point := signature.take 32
  let s := Bytes.ofLittleEndian (signature.drop 32)
  match Point.decompress? key, Point.decompress? point with
  | some a, some r =>
    if s < order ∧ ¬ r.isSmallOrder ∧ ¬ a.isSmallOrder then
      let k := challenge (point ++ key ++ message)
      ((Point.base.times s).add (a.neg.times k)).compress == point
    else false
  | _, _ => false

@[simp] theorem length_publicKey (seed : Bytes) : (publicKey seed).length = 32 := by
  simp [publicKey]

@[simp] theorem length_sign (seed message : Bytes) : (sign seed message).length = 64 := by
  simp [sign]

end CertifiedAccess.EdDsa
