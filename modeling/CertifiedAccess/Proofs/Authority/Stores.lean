import CertifiedAccess.Proofs.Authority.Actions

/-!
What operations keep of a store. An authority touches a store through its interface only, so a property
that the writes of the interface respect is kept by every operation, also by one that fails half way.
-/
namespace CertifiedAccess

/-- A property of stores that writing sessions respects. -/
structure RespectedBySessions {σ : Type} [Backend σ] (P : σ → Prop) : Prop where
  saved : ∀ session store c, P store → Backend.saveSession session store = .ok c → P c.state
  stored : ∀ session store c, P store → Backend.storeTransient session store = .ok c → P c.state
  deleted : ∀ session store c, P store → Backend.deleteSession session store = .ok c → P c.state

namespace Authority
open CertifiedAccess.Action
variable [SignatureScheme] {σ : Type} [Backend σ] {P : σ → Prop} (authority : Authority σ)

omit [SignatureScheme] in
theorem keepsStore_persist (respected : RespectedBySessions P) (session : Session) :
    KeepsStore (persist session) P := by
  unfold persist
  split
  · exact keepsStore_change (respected.stored session)
  · exact keepsStore_change (respected.saved session)

omit [Backend σ] in
theorem keepsStore_minted (account : Account) (client : PublicKey) (transient : Bool)
    (now : Instant) : KeepsStore (authority.minted account client transient now) P := by
  unfold minted
  split
  · exact keeps_pure _
  · exact keeps_failWith _ _

theorem keepsStore_openSession (respected : RespectedBySessions P) (account : Account)
    (client : PublicKey) (options : SignInOptions) (now : Instant) :
    KeepsStore (authority.openSession account client options now) P := by
  unfold openSession
  apply keeps_bind
  · exact keepsStore_ask _
  · intro allowed
    cases allowed with
    | false => exact keeps_failWith _ _
    | true =>
      apply keeps_bind
      · exact keepsStore_minted authority account client _ now
      · rintro ⟨bytes, expiresAt⟩
        apply keeps_bind
        · exact keepsStore_drawSessionId
        · intro id
          apply keeps_bind
          · exact keepsStore_persist respected _
          · intro _
            exact keeps_bind (keeps_emit _) fun _ => keeps_pure _

theorem keepsStore_signUp (respected : RespectedBySessions P) (credentials : Credentials)
    (client : PublicKey) (now : Instant)
    (created : ∀ store c, P store → Backend.createAccount credentials store = .ok c → P c.state) :
    KeepsStore (authority.signUp credentials client now) P := by
  unfold signUp
  apply keeps_bind
  · apply keepsStore_changeOr
    · rintro (_ | _)
      · exact keeps_failWith _ _
      · exact keeps_failWith _ _
    · exact created
  · intro account
    apply keeps_bind
    · exact keeps_emit _
    · intro _
      exact keepsStore_openSession authority respected account client _ now

theorem keepsStore_signIn (respected : RespectedBySessions P) (credentials : Credentials)
    (client : PublicKey) (options : SignInOptions) (now : Instant) :
    KeepsStore (authority.signIn credentials client options now) P := by
  unfold signIn
  apply keeps_bind
  · exact keepsStore_ask _
  · intro found
    cases found with
    | none => exact keeps_failWith _ _
    | some account => exact keepsStore_openSession authority respected account client options now

theorem keepsStore_refresh (respected : RespectedBySessions P) (certificate : Bytes)
    (now : Instant) : KeepsStore (authority.refresh certificate now) P := by
  unfold refresh
  apply keeps_bind
  · exact keepsStore_ask _
  · intro found
    cases found.filter Session.valid with
    | none => exact keeps_fail _
    | some session =>
      dsimp only
      split
      · exact keeps_failWith _ _
      · apply keeps_bind
        · exact keepsStore_ask _
        · intro owner
          cases owner with
          | none => exact keeps_fail _
          | some account =>
            dsimp only
            split
            · exact keeps_failWith _ _
            · apply keeps_bind
              · exact keepsStore_minted authority account _ _ now
              · rintro ⟨bytes, expiresAt⟩
                apply keeps_bind
                · exact keepsStore_persist respected _
                · intro _
                  exact keeps_bind (keeps_emit _) fun _ => keeps_pure _

omit [SignatureScheme] in
theorem keepsStore_signOut (respected : RespectedBySessions P) (certificate : Bytes) :
    KeepsStore (authority.signOut certificate) P := by
  unfold signOut
  apply keeps_bind
  · exact keepsStore_ask _
  · intro found
    cases found with
    | none => exact keeps_emit _
    | some session =>
      apply keeps_bind
      · split
        · exact keepsStore_change (respected.saved _)
        · exact keepsStore_change (respected.deleted _)
      · intro _
        exact keeps_emit _

end Authority
end CertifiedAccess
