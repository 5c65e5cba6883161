import CertifiedAccess.Authority.Account
import CertifiedAccess.Authority.Event

/-!
What an authority needs of the place where accounts and sessions are kept. Questions leave it as it is; a
change gives the new state and what was reported, and one that fails changes nothing.
-/
namespace CertifiedAccess

/-- What a change of a store of type `σ` gives. -/
structure Change (σ α : Type) where
  value : α
  state : σ
  events : List Event

/-- Operations on a store of accounts and sessions. -/
class Backend (σ : Type) where
  /-- Registers an account; a name that is taken is a conflict. -/
  createAccount : Credentials → σ → Except StoreError (Change σ Account)
  /-- The account with this name, if this is its password. -/
  accountByCredentials : Credentials → σ → Except StoreError (Option Account)
  accountById : String → σ → Except StoreError (Option Account)
  /-- The session whose current certificate is exactly this. -/
  sessionByCertificate : Bytes → σ → Except StoreError (Option Session)
  /-- All sessions of a user's key, in whatever state. -/
  sessionsOf : String → PublicKey → σ → Except StoreError (List Session)
  /-- Puts a session in the place of the one with its id, or adds it. -/
  saveSession : Session → σ → Except StoreError (Change σ Unit)
  /-- As saving, for a session that does not last. -/
  storeTransient : Session → σ → Except StoreError (Change σ Unit)
  deleteSession : Session → σ → Except StoreError (Change σ Unit)

end CertifiedAccess
