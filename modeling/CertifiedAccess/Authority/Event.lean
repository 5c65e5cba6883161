import CertifiedAccess.Authority.Error
import CertifiedAccess.Authority.Session
import CertifiedAccess.Key.Fingerprint

/-!
Events: what an authority and its store report as they work, and the lines that a log has for them.
-/
namespace CertifiedAccess

inductive LogLevel where
  | debug
  | info
  | warn
  | error
  deriving DecidableEq

def LogLevel.name : LogLevel → String
  | .debug => "DEBUG"
  | .info => "INFO"
  | .warn => "WARN"
  | .error => "ERROR"

inductive LogValue where
  | text (value : String)
  | session (id : SessionId)
  deriving DecidableEq

structure LogLine where
  level : LogLevel
  message : String
  fields : List (String × LogValue)
  deriving DecidableEq

inductive Event where
  | accountCreated (userId : String)
  | sessionSaved (id : SessionId)
  | transientSessionStored (id : SessionId)
  | sessionDeleted (id : SessionId)
  | signUpForExistingUser (username : String)
  | userRegistered (userId : String)
  | loginFailed (username : String)
  | sessionAlreadyActive (userId : String) (fingerprint : Fingerprint)
  | sessionCreated (userId : String) (fingerprint : Fingerprint) (id : SessionId) (transient : Bool)
  | refreshOfExpiredSession (id : SessionId) (expiresAt : Instant)
  | renewalDenied (userId : String)
  | sessionRenewed (id : SessionId) (expiresAt : Instant)
  | signOutWithoutSession
  | signedOut (id : SessionId)
  | storeFailed (error : StoreError)
  | certificateCreationFailed (error : CertificateError)
  deriving DecidableEq

namespace Event

def logLine : Event → LogLine
  | .accountCreated userId => ⟨.debug, "User created", [("user_id", .text userId)]⟩
  | .sessionSaved id => ⟨.debug, "Session saved", [("session_id", .session id)]⟩
  | .transientSessionStored id => ⟨.debug, "Transient session stored", [("session_id", .session id)]⟩
  | .sessionDeleted id => ⟨.debug, "Session deleted", [("session_id", .session id)]⟩
  | .signUpForExistingUser username =>
    ⟨.warn, "Sign-up for existing user", [("username", .text username)]⟩
  | .userRegistered userId => ⟨.info, "User registered", [("user_id", .text userId)]⟩
  | .loginFailed username => ⟨.warn, "Login failed", [("username", .text username)]⟩
  | .sessionAlreadyActive userId fingerprint =>
    ⟨.warn, "Session already active",
      [("user_id", .text userId), ("fingerprint", .text fingerprint.text)]⟩
  | .sessionCreated userId fingerprint id transient =>
    ⟨.info, "Session created",
      [("user_id", .text userId), ("fingerprint", .text fingerprint.text),
        ("session_id", .session id), ("transient", .text (if transient then "true" else "false"))]⟩
  | .refreshOfExpiredSession id expiresAt =>
    ⟨.debug, "Refresh of expired session",
      [("session_id", .session id), ("expires_at", .text expiresAt.text)]⟩
  | .renewalDenied userId => ⟨.warn, "Renewal denied by policy", [("user_id", .text userId)]⟩
  | .sessionRenewed id expiresAt =>
    ⟨.info, "Session renewed", [("session_id", .session id), ("expires_at", .text expiresAt.text)]⟩
  | .signOutWithoutSession => ⟨.debug, "Sign-out without a matching session", []⟩
  | .signedOut id => ⟨.info, "Signed out", [("session_id", .session id)]⟩
  | .storeFailed error => ⟨.error, "Session store failure", [("error", .text error.message)]⟩
  | .certificateCreationFailed error =>
    ⟨.error, "Certificate creation failed", [("error", .text error.message)]⟩

end Event
end CertifiedAccess
