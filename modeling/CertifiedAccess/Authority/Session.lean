import CertifiedAccess.Time.Instant
import CertifiedAccess.Wire.Tagged

/-!
Sessions: a user on a device, told by its key, with the certificate that stands for them now.
-/
namespace CertifiedAccess

structure SessionId where
  number : Nat
  deriving DecidableEq

inductive SessionState where
  | active
  /-- Past its expiry, for good. -/
  | expired
  /-- Signed out, and kept as a record. -/
  | invalidated
  deriving DecidableEq

def SessionState.name : SessionState → String
  | .active => "Active"
  | .expired => "Expired"
  | .invalidated => "Invalidated"

structure Session where
  id : SessionId
  userId : String
  clientKey : PublicKey
  mechanism : Mechanism
  /-- The octets of the current certificate, by which the session is found. -/
  certificate : Bytes
  expiresAt : Instant
  valid : Bool
  /-- A name for the device or application, if one was given. -/
  clientId : Option String
  /-- Whether the session is renewed for the short window. -/
  transient : Bool
  deriving DecidableEq

namespace Session

/-- A valid session of a key's own mechanism. -/
def make (id : SessionId) (userId : String) (clientKey : PublicKey) (certificate : Bytes)
    (expiresAt : Instant) (clientId : Option String) (transient : Bool) : Session :=
  ⟨id, userId, clientKey, clientKey.mechanism, certificate, expiresAt, true, clientId, transient⟩

def state (s : Session) (now : Instant) : SessionState :=
  if !s.valid then .invalidated else if s.expiresAt < now then .expired else .active

def isActiveAt (s : Session) (now : Instant) : Bool := s.state now = .active

def renewed (s : Session) (certificate : Bytes) (expiresAt : Instant) : Session :=
  { s with certificate := certificate, expiresAt := expiresAt }

def invalidated (s : Session) : Session := { s with valid := false }

end Session
end CertifiedAccess
