import CertifiedAccess.Role
import CertifiedAccess.Time.Written
import CertifiedAccess.Wire.Sealed

/-!
Certificates: an issuer's word, until an expiry, that a client key stands for a payload and has certain
roles. On the wire a certificate is a version, two key fields, the expiry in milliseconds, the role mask
and the payload's own form, so a certificate may itself be a payload.
-/
namespace CertifiedAccess

def certificateVersion : UInt8 := 1

structure Certificate (π : Type) where
  issuer : PublicKey
  client : PublicKey
  expiresAt : Instant
  roles : RoleMask
  payload : π
  deriving DecidableEq

inductive Rejection where
  | untrustedIssuer
  | expired (expiresAt now : Instant)
  deriving DecidableEq

def Rejection.message : Rejection → String
  | .untrustedIssuer => "untrusted issuer"
  | .expired expiresAt now => "expired at " ++ expiresAt.text ++ ", now " ++ now.text

inductive CertificateError where
  | wire (error : WireError)
  | rejected (reason : Rejection)
  | role (error : RoleError)
  | expiryOutOfRange (now : Instant) (validity : Span)
  deriving DecidableEq

def CertificateError.message : CertificateError → String
  | .wire error => error.message
  | .rejected reason => "invalid certificate: " ++ reason.message
  | .role error => error.message
  | .expiryOutOfRange now validity => "expiry out of range: " ++ now.text ++ " + " ++ validity.text

namespace Certificate
variable {π : Type}

/-- A certificate whose expiry is cut to the millisecond, which is what the wire form holds. -/
def make (issuer client : PublicKey) (expiresAt : Instant) (roles : RoleMask) (payload : π) :
    Certificate π :=
  ⟨issuer, client, expiresAt.toMillisecond, roles, payload⟩

/-- A certificate is still valid at the very instant it expires at. -/
def isExpiredAt (c : Certificate π) (now : Instant) : Bool :=
  c.expiresAt < now

/-- The certificate's roles, as an application knows them. -/
def rolesAs (ρ : Type) [Role ρ] (c : Certificate π) : Except CertificateError (List ρ) :=
  (c.roles.decode ρ).mapError .role

section
variable [SignatureScheme]

/-- A certificate by the holder of `issuer`, for a span from `now` on. -/
def grant {ρ : Type} [Role ρ] (issuer : PrivateKey) (client : PublicKey) (roles : List ρ)
    (payload : π) (validity : Span) (now : Instant) : Except CertificateError (Certificate π) := do
  match now.add? validity with
  | none => throw (.expiryOutOfRange now validity)
  | some expiresAt =>
    let mask ← (RoleMask.encode roles).mapError .role
    return make issuer.publicKey client expiresAt mask payload

open Wire

/-- The wire form, field after field; of several failures the first is told. -/
def encode [Codec π] (c : Certificate π) : Except WireError Bytes := do
  let issuer ← field c.issuer.toTagged.encode
  let client ← field c.client.toTagged.encode
  let payload ← Codec.encode c.payload
  return certificateVersion :: (issuer ++ client ++
    Bytes.bigEndian 8 c.expiresAt.milliseconds.toInt64.toUInt64.toNat ++
    Bytes.bigEndian 8 c.roles.bits.toNat ++ payload)

def readKey : Read PublicKey := do
  Read.ofExcept (PublicKey.ofTagged (← Read.tagged))

/-- Reads the version before anything else. -/
def decode [Codec π] : Read (Certificate π) := do
  let version ← Read.u8
  if version ≠ certificateVersion then
    throw (.unsupportedVersion certificateVersion version)
  let issuer ← readKey
  let client ← readKey
  let ms := (← Read.i64).toInt
  match Instant.ofMilliseconds? ms with
  | none => throw (.invalidTimestamp ms)
  | some expiresAt =>
    let roles ← Read.u64
    let payload ← Codec.decode
    return ⟨issuer, client, expiresAt, ⟨roles⟩, payload⟩

instance [Codec π] : Codec (Certificate π) where
  encode := encode
  decode := decode

/-- The sealed certificate; only its own issuer can seal it. -/
def sign [Codec π] (c : Certificate π) (issuer : PrivateKey) : Except WireError Bytes :=
  if issuer.publicKey = c.issuer then sealValue c issuer
  else .error (.signingFailed "signing key does not match issuer key")

/-- Reads a sealed certificate that is known to be genuine; the signature is not verified. -/
def ofTrustedBytes [Codec π] (bytes : Bytes) : Except WireError (Certificate π) :=
  readUnverified bytes

end
end Certificate
end CertifiedAccess
