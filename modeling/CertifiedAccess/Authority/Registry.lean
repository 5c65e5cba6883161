import CertifiedAccess.Authority.Backend
import CertifiedAccess.Authority.Table
import CertifiedAccess.Digest.Sha256

/-!
A registry: accounts and sessions in memory. Sessions are found by the digest of their certificate,
through an index that every write keeps in step; the octets themselves are compared at the end.
-/
namespace CertifiedAccess

structure Registry where
  accounts : Table String Account
  sessions : Table SessionId Session
  /-- Sessions by the digest of their current certificate. -/
  index : Table Bytes SessionId
  /-- How many accounts were ever created. -/
  registered : Nat
  deriving DecidableEq

namespace Registry

def empty : Registry := ⟨.empty, .empty, .empty, 0⟩

/-- Registers an account, whose id is made of the number of accounts so far. -/
def createAccount (credentials : Credentials) (r : Registry) :
    Except StoreError (Change Registry Account) :=
  if r.accounts.contains credentials.username then .error .conflict
  else
    let number := r.registered + 1
    let account : Account :=
      ⟨"user-" ++ number.repr, credentials.username, credentials.password, [], true⟩
    .ok ⟨account,
      { r with accounts := r.accounts.insert credentials.username account, registered := number },
      [.accountCreated account.id]⟩

/-- The account with this name, if this is its password. -/
def accountByCredentials (credentials : Credentials) (r : Registry) : Option Account :=
  (r.accounts.get? credentials.username).filter fun account =>
    account.password == credentials.password

def accountById (id : String) (r : Registry) : Option Account :=
  r.accounts.values.find? fun account => account.id == id

/-- The registry with an account's roles replaced; nothing if there is no such name. -/
def setRoles? (username : String) (roles : List RoleId) (r : Registry) : Option Registry :=
  if r.accounts.contains username then
    some { r with accounts := r.accounts.modify username fun a => { a with roles := roles } }
  else none

/-- The registry with an account enabled or disabled; nothing if there is no such name. -/
def setEnabled? (username : String) (enabled : Bool) (r : Registry) : Option Registry :=
  if r.accounts.contains username then
    some { r with accounts := r.accounts.modify username fun a => { a with enabled := enabled } }
  else none

/-- The session whose current certificate is exactly this. -/
def sessionByCertificate (certificate : Bytes) (r : Registry) : Option Session := do
  let id ← r.index.get? (Sha256.digest certificate)
  let session ← r.sessions.get? id
  if session.certificate == certificate then some session else none

def sessionsOfUser (userId : String) (r : Registry) : List Session :=
  r.sessions.values.filter fun s => s.userId == userId

def sessionsOf (userId : String) (key : PublicKey) (r : Registry) : List Session :=
  r.sessions.values.filter fun s => s.userId == userId && s.clientKey == key

/-- The index without a certificate, if that certificate leads to this session. -/
def unindex (index : Table Bytes SessionId) (session : Session) : Table Bytes SessionId :=
  let digest := Sha256.digest session.certificate
  if index.get? digest = some session.id then index.erase digest else index

/-- Puts a session in the place of the one with its id, or adds it. The index forgets the certificate that
the session had before, and leads the new one to this session, whatever it led to. -/
def put (session : Session) (r : Registry) : Registry :=
  let digest := Sha256.digest session.certificate
  let index :=
    match r.sessions.get? session.id with
    | some old => if Sha256.digest old.certificate = digest then r.index else unindex r.index old
    | none => r.index
  { r with
    sessions := r.sessions.insert session.id session
    index := index.insert digest session.id }

/-- Takes away the session with an id, and its certificate from the index. -/
def remove (id : SessionId) (r : Registry) : Registry :=
  match r.sessions.get? id with
  | some old => { r with sessions := r.sessions.erase id, index := unindex r.index old }
  | none => r

def sessionCount (r : Registry) : Nat := r.sessions.size

def indexSize (r : Registry) : Nat := r.index.size

instance : Backend Registry where
  createAccount := createAccount
  accountByCredentials credentials r := .ok (accountByCredentials credentials r)
  accountById id r := .ok (accountById id r)
  sessionByCertificate certificate r := .ok (sessionByCertificate certificate r)
  sessionsOf userId key r := .ok (sessionsOf userId key r)
  saveSession session r := .ok ⟨(), put session r, [.sessionSaved session.id]⟩
  storeTransient session r := .ok ⟨(), put session r, [.transientSessionStored session.id]⟩
  deleteSession session r :=
    .ok ⟨(), remove session.id r,
      if r.sessions.contains session.id then [.sessionDeleted session.id] else []⟩

end Registry
end CertifiedAccess
