import CertifiedAccess.Authority.Backend

/-!
Policies: when a session may be created, and for which accounts it may be renewed.
-/
namespace CertifiedAccess

/-- Whether a user's key may get one more session, by what the store says. A policy only answers: it changes
nothing in the store, and it keeps no state of its own from one question to the next. -/
abbrev CreationPolicy (σ : Type) := String → PublicKey → Instant → σ → Except StoreError Bool

namespace CreationPolicy
variable {σ : Type}

def allowAll : CreationPolicy σ := fun _ _ _ _ => .ok true

/-- One active session for each user and key; sessions that are expired or signed out do not count. -/
def singleActive [Backend σ] : CreationPolicy σ := fun userId key now store => do
  let sessions ← Backend.sessionsOf userId key store
  return !sessions.any fun s => s.isActiveAt now

end CreationPolicy

/-- Whether the sessions of an account may be renewed. Such a policy, too, only answers: it does not see the
store, changes nothing and keeps no state of its own. -/
abbrev RenewalPolicy := Account → Bool

namespace RenewalPolicy

def always : RenewalPolicy := fun _ => true

def enabledOnly : RenewalPolicy := Account.enabled

end RenewalPolicy
end CertifiedAccess
