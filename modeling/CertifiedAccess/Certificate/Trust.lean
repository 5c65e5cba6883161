import CertifiedAccess.Key.Fingerprint

/-!
The issuers that a verifier accepts: a set of public keys.
-/
namespace CertifiedAccess

/-- A set of keys, in the order in which they came to be trusted. -/
structure TrustedKeys where
  keys : List PublicKey
  nodup : keys.Nodup

namespace TrustedKeys

def none : TrustedKeys := ⟨[], List.nodup_nil⟩

def contains (trusted : TrustedKeys) (key : PublicKey) : Bool :=
  decide (key ∈ trusted.keys)

/-- The set with a key added. -/
def insert (trusted : TrustedKeys) (key : PublicKey) : TrustedKeys :=
  if h : key ∈ trusted.keys then trusted
  else
    ⟨trusted.keys ++ [key], by
      rw [List.nodup_append]
      exact ⟨trusted.nodup, by simp, by grind⟩⟩

def ofList (keys : List PublicKey) : TrustedKeys :=
  keys.foldl insert none

def size (trusted : TrustedKeys) : Nat := trusted.keys.length

def isEmpty (trusted : TrustedKeys) : Bool := trusted.keys.isEmpty

/-- Whether two sets hold the same keys, whatever the order. -/
def sameKeys (a b : TrustedKeys) : Bool :=
  a.keys.all b.contains && b.keys.all a.contains

def fingerprints (trusted : TrustedKeys) : List Fingerprint :=
  trusted.keys.map Fingerprint.ofPublicKey

end TrustedKeys
end CertifiedAccess
