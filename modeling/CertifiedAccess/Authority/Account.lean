import CertifiedAccess.Role
import CertifiedAccess.Text.Quoted
import CertifiedAccess.Wire.Codec

/-!
Accounts: who may sign in, with which roles, and what a certificate says of them.
-/
namespace CertifiedAccess

structure Credentials where
  username : String
  password : String
  deriving DecidableEq

/-- Credentials as they are shown in a log: without the password. -/
def Credentials.summary (c : Credentials) : String :=
  "Credentials \x7b username: " ++ Text.quoted c.username ++ ", password: " ++
    Text.quoted "[REDACTED]" ++ " \x7d"

structure Account where
  id : String
  username : String
  password : String
  /-- Role numbers as they were assigned; some may be out of range. -/
  roles : List RoleId
  enabled : Bool
  deriving DecidableEq

/-- What a session certificate says of an account. -/
structure AccountPayload where
  userId : String
  username : String
  deriving DecidableEq

def Account.payload (a : Account) : AccountPayload := ⟨a.id, a.username⟩

/-- Two fields: the id, then the name. -/
instance : Wire.Codec AccountPayload where
  encode payload := do
    let userId ← Wire.field (Text.utf8 payload.userId)
    let username ← Wire.field (Text.utf8 payload.username)
    return userId ++ username
  decode := do
    let userId ← Wire.Read.text
    let username ← Wire.Read.text
    return ⟨userId, username⟩

end CertifiedAccess
