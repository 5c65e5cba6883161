import CertifiedAccess.Certificate.Basic

/-!
What can go wrong in the life of a session.
-/
namespace CertifiedAccess

/-- A failure of what keeps accounts and sessions. -/
inductive StoreError where
  | conflict
  | backend (detail : String)
  deriving DecidableEq

def StoreError.message : StoreError → String
  | .conflict => "record already exists"
  | .backend detail => "store backend error: " ++ detail

inductive SessionError where
  | userAlreadyExists
  /-- No such user, or another password: which of them is not told. -/
  | loginFailed
  | alreadyLoggedIn
  | noSessionFound
  | expiredSession
  | renewalDenied
  | certificateCreationFailed (error : CertificateError)
  | store (error : StoreError)
  deriving DecidableEq

namespace SessionError

def message : SessionError → String
  | .userAlreadyExists => "user already exists"
  | .loginFailed => "login failed"
  | .alreadyLoggedIn => "already logged in"
  | .noSessionFound => "no session found"
  | .expiredSession => "session expired"
  | .renewalDenied => "renewal denied"
  | .certificateCreationFailed error => "certificate creation failed: " ++ error.message
  | .store error => error.message

def status : SessionError → Nat
  | .alreadyLoggedIn => 409
  | .userAlreadyExists => 412
  | .loginFailed | .noSessionFound | .expiredSession => 401
  | .renewalDenied => 403
  | .certificateCreationFailed _ | .store _ => 500

end SessionError
end CertifiedAccess
