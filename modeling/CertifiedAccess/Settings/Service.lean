import CertifiedAccess.Certificate.Trust
import CertifiedAccess.Settings.Error
import CertifiedAccess.Settings.Toml
import CertifiedAccess.Time.Span
import CertifiedAccess.Wire.Tagged

/-!
Settings of a service: the issuers it trusts, the certificates it issues, the bodies it accepts.
-/
namespace CertifiedAccess

structure ServiceSettings where
  /-- Tagged public keys in base64. -/
  trustedIssuers : List String
  /-- How long certificates to other services last, in seconds. -/
  certificateValidity : Nat
  /-- The longest body that is looked at, in octets. -/
  maxBodyBytes : Nat
  deriving DecidableEq

namespace ServiceSettings

/-- The longest window: thirty days. -/
def maxValidity : Nat := 2592000

/-- Nobody is trusted, certificates last a quarter of an hour, bodies hold ten mebibytes. -/
def standard : ServiceSettings := ⟨[], 900, 10485760⟩

/-- The window of certificates, cut to the longest. -/
def certificateWindow (s : ServiceSettings) : Span :=
  .ofSeconds (min s.certificateValidity maxValidity)

section
variable [SignatureScheme]

/-- The keys of a list of texts, the first at position `index`. -/
def readKeys (index : Nat) : List String → Except SettingsError (List PublicKey)
  | [] => .ok []
  | text :: rest => do
    let key ← (PublicKey.ofBase64 text).mapError (.invalidIssuerKey index)
    return key :: (← readKeys (index + 1) rest)

/-- The set of the keys that are named; the first text that is no key is told by its position. -/
def trustedKeys (s : ServiceSettings) : Except SettingsError TrustedKeys :=
  (readKeys 0 s.trustedIssuers).map TrustedKeys.ofList

/-- Refuses a window that is zero or too long, then a limit of no octets, then a text that is no key. -/
def check (s : ServiceSettings) : Except SettingsError Unit := do
  checkWindow "certificate_validity_secs" maxValidity s.certificateValidity
  if s.maxBodyBytes = 0 then throw (.invalid (.notPositive "max_body_bytes"))
  let _ ← s.trustedKeys

/-- The settings with one of them changed as a line of a document says. -/
def update? (s : ServiceSettings) : String × Toml.Value → Option ServiceSettings
  | ("trusted_issuers", .strings texts) => some { s with trustedIssuers := texts }
  | ("certificate_validity_secs", .integer n) =>
    if 0 ≤ n then some { s with certificateValidity := n.toNat } else none
  | ("max_body_bytes", .integer n) => if 0 ≤ n then some { s with maxBodyBytes := n.toNat } else none
  | _ => none

/-- The settings in a document; what it does not mention is standard. -/
def ofText (text : String) : Except SettingsError ServiceSettings := do
  match (Toml.document? text).bind fun entries => entries.foldlM update? standard with
  | none => throw .unparsable
  | some s =>
    s.check
    return s

/-- The settings in a file, given by what it holds, if it exists. -/
def ofFile (content : Option Bytes) : Except SettingsError ServiceSettings :=
  match content.bind Text.ofUtf8? with
  | none => .error .unreadable
  | some text => ofText text

end
end ServiceSettings
end CertifiedAccess
