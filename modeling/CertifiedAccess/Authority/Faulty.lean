import CertifiedAccess.Authority.Backend

/-!
A store that fails on demand: it stands in front of another store and answers chosen operations with an
error in its place.
-/
namespace CertifiedAccess

/-- The operations that can be made to fail. -/
inductive StoreOperation where
  | createAccount
  | accountByCredentials
  | accountById
  | sessionByCertificate
  | sessionsOf
  | saveSession
  | storeTransient
  | deleteSession
  deriving DecidableEq

structure Faulty (σ : Type) where
  inner : σ
  /-- The errors that operations answer with, the latest order first. -/
  faults : List (StoreOperation × StoreError)
  /-- Whether accounts cannot be found by their id. -/
  accountsHidden : Bool

namespace Faulty
variable {σ : Type}

def ofStore (inner : σ) : Faulty σ := ⟨inner, [], false⟩

def fail (operation : StoreOperation) (error : StoreError) (f : Faulty σ) : Faulty σ :=
  { f with faults := (operation, error) :: f.faults }

def heal (f : Faulty σ) : Faulty σ := { f with faults := [] }

/-- The inner store's answer, unless the operation has to fail. -/
def guarded {α : Type} (operation : StoreOperation) (f : Faulty σ)
    (answer : σ → Except StoreError α) : Except StoreError α :=
  match f.faults.lookup operation with
  | some error => .error error
  | none => answer f.inner

/-- A change of the inner store, as a change of this one. -/
def change {α : Type} (operation : StoreOperation) (f : Faulty σ)
    (act : σ → Except StoreError (Change σ α)) : Except StoreError (Change (Faulty σ) α) :=
  (f.guarded operation act).map fun c => ⟨c.value, { f with inner := c.state }, c.events⟩

instance [Backend σ] : Backend (Faulty σ) where
  createAccount credentials f := f.change .createAccount (Backend.createAccount credentials)
  accountByCredentials credentials f :=
    f.guarded .accountByCredentials (Backend.accountByCredentials credentials)
  accountById id f :=
    f.guarded .accountById fun s =>
      if f.accountsHidden then .ok none else Backend.accountById id s
  sessionByCertificate certificate f :=
    f.guarded .sessionByCertificate (Backend.sessionByCertificate certificate)
  sessionsOf userId key f := f.guarded .sessionsOf (Backend.sessionsOf userId key)
  saveSession session f := f.change .saveSession (Backend.saveSession session)
  storeTransient session f := f.change .storeTransient (Backend.storeTransient session)
  deleteSession session f := f.change .deleteSession (Backend.deleteSession session)

end Faulty
end CertifiedAccess
