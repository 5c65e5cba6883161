import CertifiedAccess.Certificate.Basic
import CertifiedAccess.Certificate.Trust

/-!
Validation of sealed certificates. Trust and expiry are looked at only once the signature is known to be
genuine, so that forged octets learn nothing about them.
-/
namespace CertifiedAccess.Certificate
variable {π : Type} [SignatureScheme] [Wire.Codec π]

/-- The certificate in these octets, if the key that it names as its issuer accepts the signature. -/
def openSelfNamed (bytes : Bytes) : Except WireError (Certificate π) :=
  (Wire.openBy bytes Certificate.issuer).map (·.value)

/-- Whether a genuine certificate is acceptable: a trusted issuer first, then the expiry. -/
def check (c : Certificate π) (trusted : TrustedKeys) (now : Instant) : Except Rejection Unit :=
  if ¬ trusted.contains c.issuer then .error .untrustedIssuer
  else if c.isExpiredAt now then .error (.expired c.expiresAt now)
  else .ok ()

/-- The certificate in these octets, if it is genuine, from a trusted issuer and not expired. -/
def validate (trusted : TrustedKeys) (bytes : Bytes) (now : Instant) :
    Except CertificateError (Certificate π) := do
  let c ← (openSelfNamed bytes).mapError .wire
  (c.check trusted now).mapError .rejected
  return c

end CertifiedAccess.Certificate
