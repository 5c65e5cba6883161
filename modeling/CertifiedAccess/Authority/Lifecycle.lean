import CertifiedAccess.Authority.Action
import CertifiedAccess.Authority.Policy
import CertifiedAccess.Settings.Authority

/-!
The life of a session: an authority registers users, opens sessions, renews and ends them, and issues a
certificate for every session that it opens or renews.
-/
namespace CertifiedAccess

/-- What an authority acts on: a store, and how many session ids have been drawn so far. -/
structure World (σ : Type) where
  store : σ
  drawn : Nat

structure IssuedCertificate where
  bytes : Bytes
  expiresAt : Instant
  sessionId : SessionId
  deriving DecidableEq

/-- How a user wants to be signed in. -/
structure SignInOptions where
  /-- Whether the session is persistent, for the long window. -/
  remember : Bool
  clientId : Option String
  deriving DecidableEq

def SignInOptions.persistent : SignInOptions := ⟨true, none⟩

def SignInOptions.transient : SignInOptions := ⟨false, none⟩

structure Authority (σ : Type) where
  key : PrivateKey
  creation : CreationPolicy σ
  renewal : RenewalPolicy
  sessionWindow : Span
  transientWindow : Span
  retainSignedOut : Bool

namespace Authority
variable {σ : Type}

/-- What an authority does in a world. -/
abbrev Deed (σ α : Type) := Action (World σ) SessionError α

/-- An authority with standard settings, which allows every session and every renewal. -/
def standard (key : PrivateKey) : Authority σ where
  key := key
  creation := .allowAll
  renewal := .always
  sessionWindow := AuthoritySettings.standard.sessionWindow
  transientWindow := AuthoritySettings.standard.transientWindow
  retainSignedOut := AuthoritySettings.standard.retainSignedOut

/-- The authority that settings describe, if they are fit for use. -/
def ofSettings [Backend σ] (settings : AuthoritySettings) (key : PrivateKey) :
    Except SettingsError (Authority σ) := do
  settings.check
  return { (standard key : Authority σ) with
    creation := if settings.singleActiveSession then .singleActive else .allowAll
    sessionWindow := settings.sessionWindow
    transientWindow := settings.transientWindow
    retainSignedOut := settings.retainSignedOut }

def window (authority : Authority σ) (transient : Bool) : Span :=
  if transient then authority.transientWindow else authority.sessionWindow

/-- A failure of the store ends what was to be done. -/
def storeFailed {α : Type} (error : StoreError) : Deed σ α :=
  .failWith (.storeFailed error) (.store error)

def ask {α : Type} (question : σ → Except StoreError α) : Deed σ α := fun world =>
  match question world.store with
  | .ok a => ⟨.ok a, world, []⟩
  | .error e => storeFailed e world

/-- Changes the store, or does something else if the store refuses. -/
def changeOr {α : Type} (refused : StoreError → Deed σ α)
    (act : σ → Except StoreError (Change σ α)) : Deed σ α := fun world =>
  match act world.store with
  | .ok c => ⟨.ok c.value, { world with store := c.state }, c.events⟩
  | .error e => refused e world

def change {α : Type} (act : σ → Except StoreError (Change σ α)) : Deed σ α :=
  changeOr storeFailed act

/-- Draws a session id that was never drawn before. -/
def drawSessionId : Deed σ SessionId := fun world =>
  ⟨.ok ⟨world.drawn⟩, { world with drawn := world.drawn + 1 }, []⟩

section
variable [SignatureScheme]

/-- The key that services must trust to accept this authority's certificates. -/
def publicKey (authority : Authority σ) : PublicKey := authority.key.publicKey

/-- A signed certificate for an account's key, and its expiry. -/
def mint (authority : Authority σ) (account : Account) (client : PublicKey) (validity : Span)
    (now : Instant) : Except CertificateError (Bytes × Instant) := do
  let certificate ←
    Certificate.grant authority.key client account.roles account.payload validity now
  let bytes ← (certificate.sign authority.key).mapError .wire
  return (bytes, certificate.expiresAt)

/-- Mints a certificate; a failure ends what was to be done. -/
def minted (authority : Authority σ) (account : Account) (client : PublicKey) (transient : Bool)
    (now : Instant) : Deed σ (Bytes × Instant) :=
  match authority.mint account client (authority.window transient) now with
  | .ok result => pure result
  | .error e => .failWith (.certificateCreationFailed e) (.certificateCreationFailed e)

variable [Backend σ]

/-- Stores a session where sessions of its kind are kept. -/
def persist (session : Session) : Deed σ Unit :=
  change (if session.transient then Backend.storeTransient session else Backend.saveSession session)

def issuedFor (session : Session) : IssuedCertificate :=
  ⟨session.certificate, session.expiresAt, session.id⟩

/-- Opens a session of an account for a key, if the policy allows it. -/
def openSession (authority : Authority σ) (account : Account) (client : PublicKey)
    (options : SignInOptions) (now : Instant) : Deed σ IssuedCertificate := do
  let fingerprint := Fingerprint.ofPublicKey client
  let allowed ← ask (authority.creation account.id client now)
  if !allowed then
    Action.failWith (.sessionAlreadyActive account.id fingerprint) .alreadyLoggedIn
  else
    let transient := !options.remember
    let (bytes, expiresAt) ← authority.minted account client transient now
    let id ← drawSessionId
    let session := Session.make id account.id client bytes expiresAt options.clientId transient
    persist session
    Action.emit (.sessionCreated account.id fingerprint id transient)
    return issuedFor session

/-- Registers a user and opens a persistent session. The account stays when no session can be opened. -/
def signUp (authority : Authority σ) (credentials : Credentials) (client : PublicKey)
    (now : Instant) : Deed σ IssuedCertificate := do
  let account ← changeOr
    (fun
      | .conflict => .failWith (.signUpForExistingUser credentials.username) .userAlreadyExists
      | error => storeFailed error)
    (Backend.createAccount credentials)
  Action.emit (.userRegistered account.id)
  authority.openSession account client .persistent now

def signIn (authority : Authority σ) (credentials : Credentials) (client : PublicKey)
    (options : SignInOptions) (now : Instant) : Deed σ IssuedCertificate := do
  match ← ask (Backend.accountByCredentials credentials) with
  | none => Action.failWith (.loginFailed credentials.username) .loginFailed
  | some account => authority.openSession account client options now

/-- Renews the session whose current certificate is this, for its own key and the window that it was opened
with. -/
def refresh (authority : Authority σ) (certificate : Bytes) (now : Instant) :
    Deed σ IssuedCertificate := do
  match (← ask (Backend.sessionByCertificate certificate)).filter Session.valid with
  | none => Action.fail .noSessionFound
  | some session =>
    if session.expiresAt < now then
      Action.failWith (.refreshOfExpiredSession session.id session.expiresAt) .expiredSession
    else
      match ← ask (Backend.accountById session.userId) with
      | none => Action.fail .noSessionFound
      | some account =>
        if !authority.renewal account then
          Action.failWith (.renewalDenied session.userId) .renewalDenied
        else
          let (bytes, expiresAt) ←
            authority.minted account session.clientKey session.transient now
          let renewed := session.renewed bytes expiresAt
          persist renewed
          Action.emit (.sessionRenewed renewed.id renewed.expiresAt)
          return issuedFor renewed

/-- Ends the session whose current certificate is this. That there is none is no error. -/
def signOut (authority : Authority σ) (certificate : Bytes) : Deed σ Unit := do
  match ← ask (Backend.sessionByCertificate certificate) with
  | none => Action.emit .signOutWithoutSession
  | some session =>
    change (if authority.retainSignedOut then Backend.saveSession session.invalidated
      else Backend.deleteSession session)
    Action.emit (.signedOut session.id)

end
end Authority
end CertifiedAccess
