import CertifiedAccess.Certificate.Basic
import CertifiedAccess.Settings.Service

/-!
Certificates that a service issues to call other services, which must trust its key.
-/
namespace CertifiedAccess

structure Issuer where
  key : PrivateKey
  validity : Span

namespace Issuer

def standard (key : PrivateKey) : Issuer := ⟨key, ServiceSettings.standard.certificateWindow⟩

section
variable [SignatureScheme]

/-- The issuer that settings describe, if they are fit for use. -/
def ofSettings (settings : ServiceSettings) (key : PrivateKey) : Except SettingsError Issuer := do
  settings.check
  return ⟨key, settings.certificateWindow⟩

/-- The key that other services must trust. -/
def publicKey (issuer : Issuer) : PublicKey := issuer.key.publicKey

/-- A sealed certificate for a key, valid from `now` for the issuer's window. -/
def issue {ρ π : Type} [Role ρ] [Wire.Codec π] (issuer : Issuer) (client : PublicKey)
    (roles : List ρ) (payload : π) (now : Instant) : Except CertificateError Bytes := do
  let certificate ← Certificate.grant issuer.key client roles payload issuer.validity now
  (certificate.sign issuer.key).mapError .wire

end
end Issuer
end CertifiedAccess
