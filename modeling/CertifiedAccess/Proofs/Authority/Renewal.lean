import CertifiedAccess.Key.Ed25519
import CertifiedAccess.Proofs.Authority.Histories
import CertifiedAccess.Proofs.Certificate.Granting

/-!
Renewal as a decision. The answer to a certificate is read off the state of the session that it leads to,
then the account of that session as it stands, then the certificate that is to be minted; and every session
that is kept has an account.
-/
namespace CertifiedAccess

/-- A certificate leads to an active session, and this is the account of the session as it stands. -/
structure Registry.Continues (r : Registry) (certificate : Bytes) (now : Instant) (session : Session)
    (account : Account) : Prop where
  current : r.sessionByCertificate certificate = some session
  active : session.state now = .active
  owner : r.accountById session.userId = some account

theorem World.Orderly.owner_of_found {world : World Registry} (held : world.Orderly)
    {certificate : Bytes} {s : Session}
    (found : world.store.sessionByCertificate certificate = some s) :
    ∃ account, world.store.accountById s.userId = some account :=
  Registry.exists_accountById (held.owned s (Registry.mem_sessions_of_found found))

section
variable [SignatureScheme]

namespace Authority

/-- No certificate is minted exactly for the reasons for which none is granted and sealed. -/
theorem mint_eq_error_iff {σ : Type} {authority : Authority σ} {account : Account} {client : PublicKey}
    {validity : Span} {now : Instant} {e : CertificateError} :
    authority.mint account client validity now = .error e ↔
      Certificate.Withheld account.roles account.payload validity now e := by
  rw [mint]
  exact Certificate.grant_bind_eq_error_iff fun c => bind_pure_eq_error_iff.trans mapError_eq_error_iff

variable {authority : Authority Registry} {r : Registry} {world : World Registry}
  {certificate : Bytes} {now : Instant} {e e' : SessionError}

theorem Declines.unique (declines : authority.Declines r certificate now e)
    (declines' : authority.Declines r certificate now e') : e = e' := by
  cases declines <;> cases declines' <;> simp_all

theorem Renews.not_declines {session renewed : Session} {account : Account}
    (renews : authority.Renews r certificate now session account renewed) :
    ¬ authority.Declines r certificate now e := by
  obtain ⟨current, active, owner, eligible, minted, -⟩ := renews
  intro declines
  cases declines <;> simp_all

theorem refresh_eq_error_iff :
    ((authority.refresh certificate now).run world).result = .error e ↔
      authority.Declines world.store certificate now e := by
  rcases authority.refresh_ends world certificate now with
    ⟨e', declines, ended, -⟩ | ⟨session, account, renewed, renews, ended, -⟩
  · rw [ended, Except.error.injEq]
    constructor
    · rintro rfl
      exact declines
    · exact declines.unique
  · rw [ended]
    exact iff_of_false nofun renews.not_declines

theorem renews_of_refresh {issued : IssuedCertificate}
    (renewed : ((authority.refresh certificate now).run world).result = .ok issued) :
    ∃ session account renewed, authority.Renews world.store certificate now session account renewed ∧
      issuedFor renewed = issued := by
  rcases authority.refresh_ends world certificate now with
    ⟨e, -, ended, -⟩ | ⟨session, account, renewed', renews, ended, -⟩
  · rw [ended] at renewed
    contradiction
  · rw [ended] at renewed
    cases renewed
    exact ⟨session, account, renewed', renews, rfl⟩

namespace Declines

/-- That a session has no account is a case that does not occur. -/
theorem noSessionFound_iff
    (owned : ∀ s, r.sessionByCertificate certificate = some s →
      ∃ account, r.accountById s.userId = some account) :
    authority.Declines r certificate now .noSessionFound ↔
      ∀ s, r.sessionByCertificate certificate = some s → s.state now = .invalidated := by
  constructor
  · intro declines s found
    cases declines with
    | absent none_there =>
      rw [none_there] at found
      contradiction
    | invalidated current stopped =>
      rw [current] at found
      cases found
      exact stopped
    | ownerless current active unowned =>
      obtain ⟨account, owner⟩ := owned _ current
      rw [unowned] at owner
      contradiction
  · intro stopped
    cases current : r.sessionByCertificate certificate with
    | none => exact .absent current
    | some s => exact .invalidated current (stopped s current)

theorem expiredSession_iff :
    authority.Declines r certificate now .expiredSession ↔
      ∃ s, r.sessionByCertificate certificate = some s ∧ s.state now = .expired := by
  constructor
  · rintro ⟨⟩
    exact ⟨_, ‹_›, ‹_›⟩
  · rintro ⟨s, current, late⟩
    exact .expired current late

theorem renewalDenied_iff :
    authority.Declines r certificate now .renewalDenied ↔
      ∃ s account, r.Continues certificate now s account ∧ authority.renewal account = false := by
  constructor
  · rintro ⟨⟩
    exact ⟨_, _, ⟨‹_›, ‹_›, ‹_›⟩, ‹_›⟩
  · rintro ⟨s, account, ⟨current, active, owner⟩, denied⟩
    exact .ineligible current active owner denied

theorem certificateCreationFailed_iff {cause : CertificateError} :
    authority.Declines r certificate now (.certificateCreationFailed cause) ↔
      ∃ s account, r.Continues certificate now s account ∧ authority.renewal account = true ∧
        Certificate.Withheld account.roles account.payload (authority.window s.transient) now
          cause := by
  constructor
  · rintro ⟨⟩
    exact ⟨_, _, ⟨‹_›, ‹_›, ‹_›⟩, ‹_›, mint_eq_error_iff.mp ‹_›⟩
  · rintro ⟨s, account, ⟨current, active, owner⟩, eligible, withheld⟩
    exact .unminted current active owner eligible (mint_eq_error_iff.mpr withheld)

/-- There are four ways to decline a renewal. -/
theorem error_cases (declines : authority.Declines r certificate now e) :
    e = .noSessionFound ∨ e = .expiredSession ∨ e = .renewalDenied ∨
      ∃ cause, e = .certificateCreationFailed cause := by
  cases declines with
  | absent none_there => exact .inl rfl
  | invalidated current stopped => exact .inl rfl
  | expired current late => exact .inr (.inl rfl)
  | ownerless current active unowned => exact .inl rfl
  | ineligible current active owner denied => exact .inr (.inr (.inl rfl))
  | unminted current active owner eligible failed => exact .inr (.inr (.inr ⟨_, rfl⟩))

end Declines

/-- What a renewal returns is a certificate for the session's own key, with the roles of its account. -/
theorem Renews.issued {session renewed : Session} {account : Account}
    (renews : authority.Renews r certificate now session account renewed) :
    renewed.id = session.id ∧ ∃ mask, RoleMask.encode account.roles = .ok mask ∧
      (authority.certificate account session.clientKey renewed.expiresAt mask).sign authority.key =
        .ok renewed.certificate := by
  obtain ⟨later, mask, -, -, encoded, sealing⟩ := mint_eq_ok_iff.mp renews.minted
  exact ⟨renews.frame.1, mask, encoded, sealing⟩

/-- A renewal decides by the state of the session, then by the policy on its account as that is now, then
by what a certificate needs: an expiry that can be written, roles below 64 and a payload that can be
written. The account is always there, and there are no other reasons to decline. Where nothing stands
against it the user gets the octets of a certificate for the session's key, sealed by the authority, whose
bits are the user's roles. -/
theorem Run.refresh_decides {log : List Entry} (run : authority.Run log world) (certificate : Bytes)
    (now : Instant) :
    (∀ s, world.store.sessionByCertificate certificate = some s →
      ∃ account, world.store.accountById s.userId = some account) ∧
    (((authority.refresh certificate now).run world).result = .error .noSessionFound ↔
      ∀ s, world.store.sessionByCertificate certificate = some s → s.state now = .invalidated) ∧
    (((authority.refresh certificate now).run world).result = .error .expiredSession ↔
      ∃ s, world.store.sessionByCertificate certificate = some s ∧ s.state now = .expired) ∧
    (((authority.refresh certificate now).run world).result = .error .renewalDenied ↔
      ∃ s account, world.store.Continues certificate now s account ∧
        authority.renewal account = false) ∧
    ((∃ cause, ((authority.refresh certificate now).run world).result =
        .error (.certificateCreationFailed cause)) ↔
      ∃ s account, world.store.Continues certificate now s account ∧
        authority.renewal account = true ∧
        (now.add? (authority.window s.transient) = none ∨
          (∃ role ∈ account.roles, 64 ≤ role.number.toNat) ∨
          ∃ e, Wire.Codec.encode account.payload = .error e)) ∧
    (∀ e, ((authority.refresh certificate now).run world).result = .error e →
      e = .noSessionFound ∨ e = .expiredSession ∨ e = .renewalDenied ∨
        ∃ cause, e = .certificateCreationFailed cause) ∧
    ∀ issued, ((authority.refresh certificate now).run world).result = .ok issued →
      ∃ s account, world.store.Continues certificate now s account ∧
        authority.renewal account = true ∧ issued.sessionId = s.id ∧ ∃ mask : RoleMask,
          (∀ id : UInt8, (mask.contains id = true ↔ ⟨id⟩ ∈ account.roles) ∧
            (⟨id⟩ ∈ account.roles ↔
              id.toNat < maxRoles ∧ mask.bits.toNat.testBit id.toNat = true)) ∧
          ∃ c, c = authority.certificate account s.clientKey issued.expiresAt mask ∧
            c.sign authority.key = .ok issued.bytes ∧ c.encode = .ok c.octets ∧
            issued.bytes =
              c.octets ++ (Bytes.bigEndian 4 65 ++ 1 :: (authority.key.sign c.octets).raw) ∧
            ∀ [LawfulScheme], c.IsSealedAs issued.bytes := by
  have owned (s : Session) (found : world.store.sessionByCertificate certificate = some s) :=
    run.orderly.owner_of_found found
  simp only [refresh_eq_error_iff]
  refine ⟨owned, Declines.noSessionFound_iff owned, Declines.expiredSession_iff,
    Declines.renewalDenied_iff, ?_, fun _ => Declines.error_cases, ?_⟩
  · simp only [Declines.certificateCreationFailed_iff]
    constructor
    · rintro ⟨cause, s, account, continues, eligible, withheld⟩
      exact ⟨s, account, continues, eligible, Certificate.exists_withheld_iff.mp ⟨cause, withheld⟩⟩
    · rintro ⟨s, account, continues, eligible, reasons⟩
      obtain ⟨cause, withheld⟩ := Certificate.exists_withheld_iff.mpr reasons
      exact ⟨cause, s, account, continues, eligible, withheld⟩
  · intro issued renewed
    obtain ⟨s, account, renewed', renews, rfl⟩ := renews_of_refresh renewed
    obtain ⟨own, mask, encoded, sealing⟩ := renews.issued
    have continues : world.store.Continues certificate now s account :=
      ⟨renews.current, renews.active, renews.owner⟩
    obtain ⟨wrote, same⟩ := octets_of_sign sealing
    exact ⟨s, account, continues, renews.eligible, own, mask, fun id => RoleMask.stands_of_encode encoded, _,
      rfl, sealing, wrote, same, Certificate.isSealedAs_of_sign sealing⟩

end Authority
end

/-! A user who gets roles after the sign-up, renews, and is then disabled, at an authority that renews for
enabled users only. -/
namespace Suspended
open Newcomer

def authority : Authority Registry :=
  { (.standard key : Authority Registry) with renewal := .enabledOnly }

def promoted : Account := ⟨"user-1", "alice", "secret", [⟨5⟩, ⟨63⟩], true⟩

def promotion : Operation := .setRoles "alice" promoted.roles

def suspension : Operation := .setEnabled "alice" false

def working := (promotion.deed authority).run (registered authority).state

def suspended := (suspension.deed authority).run working.state

def workingLog : List Entry := ⟨promotion, working.result⟩ :: log authority

def suspendedLog : List Entry := ⟨suspension, suspended.result⟩ :: workingLog

/-- The same certificate is renewed with the new roles, and then no more. -/
theorem refresh_until_suspended :
    authority.Run workingLog working.state ∧
    (∃ issued, ((authority.refresh (certificate authority) (day 1)).run working.state).result = .ok issued ∧
      ∃ mask c, (∀ id, mask.contains id = true ↔ id = 5 ∨ id = 63) ∧
        c = authority.certificate promoted device.publicKey issued.expiresAt mask ∧
        issued.bytes =
          c.octets ++ (Bytes.bigEndian 4 65 ++ 1 :: (authority.key.sign c.octets).raw)) ∧
    authority.Run suspendedLog suspended.state ∧
    ((authority.refresh (certificate authority) (day 1)).run suspended.state).result =
      .error .renewalDenied := by
  have works : authority.Run workingLog working.state := (run_log authority).next promotion
  have run : authority.Run suspendedLog suspended.state := works.next suspension
  refine ⟨works, ?_, run, ?_⟩
  · obtain ⟨s, found, own, owner⟩ :
        ∃ s ∈ (working.state.store.sessionByCertificate (certificate authority)).toList,
          s.clientKey = device.publicKey ∧
            working.state.store.accountById s.userId = some promoted := by
      decide +kernel
    have accepted :
        ((authority.refresh (certificate authority) (day 1)).run working.state).result.isOk = true := by
      decide +kernel
    obtain ⟨-, -, -, -, -, -, renews⟩ := works.refresh_decides (certificate authority) (day 1)
    cases renewed : ((authority.refresh (certificate authority) (day 1)).run working.state).result with
    | error e =>
      rw [renewed] at accepted
      contradiction
    | ok issued =>
      obtain ⟨s', account, continues, -, -, mask, roles, c, certified, -, -, same, -⟩ := renews issued renewed
      cases Option.some.inj ((Option.mem_toList.mp found).symm.trans continues.current)
      cases Option.some.inj (owner.symm.trans continues.owner)
      rw [own] at certified
      refine ⟨issued, rfl, mask, c, fun id => ?_, certified, same⟩
      simpa [promoted] using (roles id).1
  · obtain ⟨s, found, active, account, owner, denied⟩ :
        ∃ s ∈ (suspended.state.store.sessionByCertificate (certificate authority)).toList,
          s.state (day 1) = .active ∧
          ∃ account ∈ (suspended.state.store.accountById s.userId).toList,
            authority.renewal account = false := by
      decide +kernel
    obtain ⟨-, -, -, denies, -⟩ := run.refresh_decides (certificate authority) (day 1)
    have continues : suspended.state.store.Continues (certificate authority) (day 1) s account :=
      ⟨Option.mem_toList.mp found, active, Option.mem_toList.mp owner⟩
    exact denies.mpr ⟨s, account, continues, denied⟩

end Suspended
end CertifiedAccess
