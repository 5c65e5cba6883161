import CertifiedAccess.Authority.Event
import CertifiedAccess.Certificate.Validation
import CertifiedAccess.Http.Signed
import CertifiedAccess.Settings.Service

/-!
The gate of a service: it tells of every request who sent it, or why that is not known. It turns nobody
away; what an anonymous request may do is for others to say.
-/
namespace CertifiedAccess

inductive AnonymousReason where
  | noCredentials
  | invalidCertificate
  | signatureValidationFailed
  | bodyTooLarge
  deriving DecidableEq

def AnonymousReason.message : AnonymousReason → String
  | .noCredentials => "no credentials"
  | .invalidCertificate => "invalid certificate"
  | .signatureValidationFailed => "signature validation failed"
  | .bodyTooLarge => "body too large"

/-- The verified sender of a request. -/
structure Caller (π : Type) where
  certificate : Certificate π
  /-- Of the client key that signed the request. -/
  fingerprint : Fingerprint
  deriving DecidableEq

inductive Verdict (π : Type) where
  | authenticated (caller : Caller π)
  | anonymous (reason : AnonymousReason)
  deriving DecidableEq

inductive GateEvent where
  | anonymousRequest
  | rejectedCertificate (error : CertificateError)
  | bodyTooLarge (fingerprint : Fingerprint) (length limit : Nat)
  | rejectedSignature (fingerprint : Fingerprint) (error : Http.RequestError)
  | authenticated (fingerprint : Fingerprint)
  deriving DecidableEq

namespace GateEvent

def level : GateEvent → LogLevel
  | .anonymousRequest => .debug
  | .rejectedCertificate _ | .bodyTooLarge _ _ _ | .rejectedSignature _ _ => .warn
  | .authenticated _ => .info

def message : GateEvent → String
  | .anonymousRequest => "Anonymous request"
  | .rejectedCertificate _ => "Rejected certificate"
  | .bodyTooLarge _ _ _ => "Request body too large to authenticate"
  | .rejectedSignature _ _ => "Rejected request signature"
  | .authenticated _ => "Authenticated request"

/-- What the event says beside method and path. -/
def details : GateEvent → List (String × LogValue)
  | .anonymousRequest => []
  | .rejectedCertificate error => [("error", .text error.message)]
  | .bodyTooLarge fingerprint length limit =>
    [("fingerprint", .text fingerprint.text), ("body_len", .text length.repr),
      ("max", .text limit.repr)]
  | .rejectedSignature fingerprint error =>
    [("fingerprint", .text fingerprint.text), ("error", .text error.message)]
  | .authenticated fingerprint => [("fingerprint", .text fingerprint.text)]

/-- The line that a log has for an event of a request. -/
def logLine (event : GateEvent) (request : Http.Request) : LogLine :=
  ⟨event.level, event.message,
    [("method", .text request.method.name), ("path", .text request.target.path)] ++ event.details⟩

end GateEvent

/-- Trusts the certificates of some issuers, and looks at bodies up to some length. -/
structure Gate where
  trusted : TrustedKeys
  maxBodyBytes : Nat

namespace Gate

def ofTrusted (trusted : TrustedKeys) : Gate := ⟨trusted, ServiceSettings.standard.maxBodyBytes⟩

def withMaxBodyBytes (gate : Gate) (limit : Nat) : Gate := { gate with maxBodyBytes := limit }

section
variable [SignatureScheme]

/-- The gate that settings describe. Of the settings only the keys are checked. -/
def ofSettings (settings : ServiceSettings) : Except SettingsError Gate := do
  return ⟨← settings.trustedKeys, settings.maxBodyBytes⟩

variable {π : Type} [Wire.Codec π]

/-- The certificate in a header's value: base64 text of the sealed form, valid at `now`. -/
def certificateIn (gate : Gate) (value : Http.HeaderValue) (now : Instant) :
    Except CertificateError (Certificate π) := do
  match Text.ofUtf8? value with
  | none => throw (.wire .invalidBase64)
  | some text =>
    let bytes ← (decodeBase64 text).mapError .wire
    Certificate.validate gate.trusted bytes now

/-- Tells who sent a request, with the event to report. A certificate must be there, then be valid, then
the body must not be too long, and at last the certificate's client key must have signed the request. -/
def examine (gate : Gate) (request : Http.Request) (now : Instant) : Verdict π × GateEvent :=
  match request.headers.first? Http.certificateHeader.name with
  | none => (.anonymous .noCredentials, .anonymousRequest)
  | some value =>
    match gate.certificateIn value now with
    | .error e => (.anonymous .invalidCertificate, .rejectedCertificate e)
    | .ok certificate =>
      let fingerprint := Fingerprint.ofPublicKey certificate.client
      let length := request.body.length
      if gate.maxBodyBytes < length then
        (.anonymous .bodyTooLarge, .bodyTooLarge fingerprint length gate.maxBodyBytes)
      else
        match request.verify certificate.client with
        | .error e =>
          (.anonymous .signatureValidationFailed, .rejectedSignature fingerprint e)
        | .ok () => (.authenticated ⟨certificate, fingerprint⟩, .authenticated fingerprint)

def authenticate (gate : Gate) (request : Http.Request) (now : Instant) : Verdict π :=
  (gate.examine request now).1

end
end Gate
end CertifiedAccess
