import CertifiedAccess.Key.Ed25519
import CertifiedAccess.Proofs.Authority.Renewal

/-!
Revocation. A certificate can be renewed as long as it is in force: some operation returned it, and since
the last that did, nobody signed out with it or renewed it into another one. The history alone decides
that. Sessions that share a certificate make no difference: the index leads to one of them at a time, and
whoever uses the certificate ends the one that it leads to.
-/
namespace CertifiedAccess

namespace Entry

/-- The operation returned these octets. -/
def Returns (entry : Entry) (certificate : Bytes) : Prop :=
  ∃ issued, entry.result = .ok (some issued) ∧ issued.bytes = certificate

theorem returns_issuedFor_iff {operation : Operation} {session : Session} {certificate : Bytes} :
    Returns ⟨operation, .ok (some (Authority.issuedFor session))⟩ certificate ↔
      session.certificate = certificate := by
  constructor
  · rintro ⟨_, ⟨⟩, same⟩
    exact same
  · intro same
    exact ⟨_, rfl, same⟩

/-- The operation put an end to a certificate: a sign-out, or a renewal that returned other octets. -/
inductive Revokes (certificate : Bytes) : Entry → Prop where
  | signedOut {result : Except SessionError (Option IssuedCertificate)} :
    Revokes certificate ⟨.signOut certificate, result⟩
  | rotated {now : Instant} {issued : IssuedCertificate} (other : issued.bytes ≠ certificate) :
    Revokes certificate ⟨.refresh certificate now, .ok (some issued)⟩

end Entry

/-- The certificate was returned, and since it last was nothing has put an end to it. -/
def InForce (log : List Entry) (certificate : Bytes) : Prop :=
  ∃ later entry earlier, log = later ++ entry :: earlier ∧ entry.Returns certificate ∧
    ∀ since ∈ later, ¬ since.Returns certificate ∧ ¬ since.Revokes certificate

theorem not_inForce_nil {certificate : Bytes} : ¬ InForce [] certificate := by
  rintro ⟨later, entry, earlier, none_there, -⟩
  simp at none_there

theorem inForce_cons_iff {entry : Entry} {log : List Entry} {certificate : Bytes} :
    InForce (entry :: log) certificate ↔
      entry.Returns certificate ∨ InForce log certificate ∧ ¬ entry.Revokes certificate := by
  constructor
  · rintro ⟨later, returning, earlier, split, returns, since⟩
    cases later with
    | nil =>
      cases split
      exact .inl returns
    | cons last later =>
      cases split
      rw [List.forall_mem_cons] at since
      exact .inr ⟨⟨later, returning, earlier, rfl, returns, since.2⟩, since.1.2⟩
  · intro kept
    by_cases returns : entry.Returns certificate
    · exact ⟨[], entry, log, rfl, returns, by simp⟩
    · obtain ⟨⟨later, returning, earlier, rfl, returned, since⟩, unrevoked⟩ :=
        kept.resolve_left returns
      refine ⟨entry :: later, returning, earlier, rfl, returned, ?_⟩
      exact List.forall_mem_cons.mpr ⟨⟨returns, unrevoked⟩, since⟩

/-- Once a certificate is ended it is not in force before it is returned again. -/
theorem not_inForce_of_revokes {certificate : Bytes} {later earlier : List Entry} {revoking : Entry}
    (revokes : revoking.Revokes certificate) (silent : ¬ revoking.Returns certificate)
    (since : ∀ entry ∈ later, ¬ entry.Returns certificate) :
    ¬ InForce (later ++ revoking :: earlier) certificate := by
  induction later with
  | nil =>
    rw [List.nil_append, inForce_cons_iff]
    rintro (returns | ⟨-, unrevoked⟩)
    · exact silent returns
    · exact unrevoked revokes
  | cons last later ih =>
    rw [List.forall_mem_cons] at since
    rw [List.cons_append, inForce_cons_iff]
    rintro (returns | ⟨kept, -⟩)
    · exact since.1 returns
    · exact ih since.2 kept

/-- No octets but these have their digest. -/
def DigestOwned (certificate : Bytes) (certificates : List Bytes) : Prop :=
  ∀ other ∈ certificates, Sha256.digest other = Sha256.digest certificate → other = certificate

namespace Registry
variable {r : Registry} {certificate : Bytes}

/-- The certificate leads to a session that was not signed out. -/
def Serves (r : Registry) (certificate : Bytes) : Prop :=
  ∃ s, r.sessionByCertificate certificate = some s ∧ s.valid = true

theorem serves_of_eq {r' : Registry} (sessions : r'.sessions = r.sessions)
    (index : r'.index = r.index) : r'.Serves certificate ↔ r.Serves certificate := by
  unfold Serves
  rw [sessionByCertificate_of_eq sessions index]

/-- The certificate does not lead to the session with this id. -/
def Spares (r : Registry) (certificate : Bytes) (id : SessionId) : Prop :=
  ∀ s, r.sessionByCertificate certificate = some s → id ≠ s.id

theorem serves_and_spares_iff {id : SessionId} :
    r.Serves certificate ∧ r.Spares certificate id ↔
      ∃ s, (r.sessionByCertificate certificate = some s ∧ id ≠ s.id) ∧ s.valid = true := by
  constructor
  · rintro ⟨⟨s, found, valid⟩, spares⟩
    exact ⟨s, ⟨found, spares s found⟩, valid⟩
  · rintro ⟨s, ⟨found, apart⟩, valid⟩
    refine ⟨⟨s, found, valid⟩, fun s' found' => ?_⟩
    rw [found] at found'
    cases found'
    exact apart

theorem serves_put_iff (keyed : r.KeyedById) (session : Session)
    (distinct : Sha256.digest session.certificate = Sha256.digest certificate →
      session.certificate = certificate) :
    (r.put session).Serves certificate ↔ session.certificate = certificate ∧ session.valid = true ∨
      session.certificate ≠ certificate ∧ r.Serves certificate ∧ r.Spares certificate session.id := by
  by_cases same : session.certificate = certificate
  · subst same
    simp [Serves, sessionByCertificate_put_self]
  · have different := fun collision => same (distinct collision)
    rw [serves_and_spares_iff, Serves]
    simp [same, sessionByCertificate_put_iff keyed different]

theorem serves_remove_iff (keyed : r.KeyedById) (id : SessionId) :
    (r.remove id).Serves certificate ↔ r.Serves certificate ∧ r.Spares certificate id := by
  rw [serves_and_spares_iff, Serves]
  simp only [sessionByCertificate_remove_iff keyed]

/-- Different certificates lead to different sessions. -/
theorem spares_iff (keyed : r.KeyedById) {used : Bytes} {session : Session} {id : SessionId}
    (current : r.sessionByCertificate used = some session) (own : id = session.id) :
    r.Spares certificate id ↔ used ≠ certificate := by
  subst own
  constructor
  · rintro spares rfl
    exact spares session current rfl
  · intro other s found same
    obtain rfl := eq_of_mem_sessions keyed (mem_sessions_of_found current)
      (mem_sessions_of_found found) same
    exact other ((certificate_of_found current).symm.trans (certificate_of_found found))

end Registry

/-- Signing out ends what the certificate leads to, and leaves all other certificates as they are. -/
theorem Authority.serves_ended_iff {authority : Authority Registry} {r : Registry}
    {certificate used : Bytes} {session : Session} (keyed : r.KeyedById)
    (current : r.sessionByCertificate used = some session)
    (distinct : Sha256.digest used = Sha256.digest certificate → used = certificate) :
    (authority.ended session r).Serves certificate ↔ r.Serves certificate ∧ used ≠ certificate := by
  have octets := Registry.certificate_of_found current
  unfold ended
  split
  · rw [← octets] at distinct
    have spares : r.Spares certificate session.invalidated.id ↔ used ≠ certificate :=
      Registry.spares_iff keyed current rfl
    rw [Registry.serves_put_iff keyed session.invalidated distinct, spares]
    simp [Session.invalidated, octets]
  · rw [Registry.serves_remove_iff keyed, Registry.spares_iff keyed current rfl]

section
variable [SignatureScheme]

namespace Operation
variable {authority : Authority Registry} {before after : World Registry} {operation : Operation}
  {result : Except SessionError (Option IssuedCertificate)} {certificate : Bytes}

/-- What passes without a trace puts an end to a certificate only if that was at an end already. -/
theorem Passes.not_serves_of_revokes (passes : Passes authority before operation result after)
    (revokes : Entry.Revokes certificate ⟨operation, result⟩) : ¬ before.store.Serves certificate := by
  cases revokes with
  | signedOut =>
    rintro ⟨s, found, -⟩
    cases passes with
    | absent none_there =>
      rw [none_there] at found
      contradiction
    | refused asks refuses => contradiction
    | assigned assigns => contradiction
  | rotated other => exact absurd rfl passes.issues_nothing

/-- After an operation a certificate can be used if the operation returned it, or if it could be used
before and the operation did not put an end to it. -/
theorem Effect.serves_iff (held : before.Orderly)
    (effect : Effect authority before operation result after) {certificates : List Bytes}
    (owned : DigestOwned certificate certificates)
    (kept : ∀ session ∈ before.store.sessions.values, session.certificate ∈ certificates)
    (issues : ∀ issued, result = .ok (some issued) → issued.bytes ∈ certificates) :
    after.store.Serves certificate ↔ Entry.Returns ⟨operation, result⟩ certificate ∨
      before.store.Serves certificate ∧ ¬ Entry.Revokes certificate ⟨operation, result⟩ := by
  cases effect with
  | passed passes =>
    obtain ⟨sessions, index, -⟩ := passes.frame
    have silent : ¬ Entry.Returns ⟨operation, result⟩ certificate := by
      rintro ⟨issued, issues, -⟩
      exact passes.issues_nothing issues
    rw [Registry.serves_of_eq sessions index, or_iff_right silent]
    exact (and_iff_left_of_imp fun serves revokes =>
      passes.not_serves_of_revokes revokes serves).symm
  | @opened _ account _ _ _ store session asks opens =>
    obtain ⟨-, -, sessions, index⟩ := asks.frame
    obtain ⟨-, -, valid⟩ := opens.frame
    have fresh : store.Spares certificate session.id := fun s found =>
      asks.unused held opens (Registry.mem_sessions_of_found found)
    have goes_on : ¬ Entry.Revokes certificate
        ⟨operation, .ok (some (Authority.issuedFor session))⟩ := by
      rintro (_ | _)
      · contradiction
      · contradiction
    rw [Registry.serves_put_iff (asks.orderly held).keyed session (owned _ (issues _ rfl)),
      Registry.serves_of_eq sessions index, Entry.returns_issuedFor_iff]
    by_cases same : session.certificate = certificate
    · simp [same, valid]
    · simp [same, fresh, goes_on]
  | @renewed used now session account renewed renews =>
    obtain ⟨own, -, -, valid⟩ := renews.frame
    rw [Registry.serves_put_iff held.keyed renewed (owned _ (issues _ rfl)),
      Registry.spares_iff held.keyed renews.current own, Entry.returns_issuedFor_iff]
    by_cases same : renewed.certificate = certificate
    · simp [same, valid]
    · have rotates : Entry.Revokes certificate
          ⟨.refresh used now, .ok (some (Authority.issuedFor renewed))⟩ ↔ used = certificate := by
        constructor
        · rintro ⟨⟩
          rfl
        · rintro rfl
          exact .rotated same
      simp [same, rotates]
  | @ended used session current =>
    have distinct := owned _ (kept session (Registry.mem_sessions_of_found current))
    rw [Registry.certificate_of_found current] at distinct
    have silent : ¬ Entry.Returns ⟨.signOut used, .ok none⟩ certificate := by
      rintro ⟨_, ⟨⟩, -⟩
    have revokes : Entry.Revokes certificate ⟨.signOut used, .ok none⟩ ↔ used = certificate := by
      constructor
      · rintro ⟨⟩
        rfl
      · rintro rfl
        exact .signedOut
    rw [or_iff_right silent, revokes]
    exact Authority.serves_ended_iff held.keyed current distinct

/-- Putting an end to a certificate is not returning it. -/
theorem Effect.silent_of_revokes (effect : Effect authority before operation result after)
    (revokes : Entry.Revokes certificate ⟨operation, result⟩) :
    ¬ Entry.Returns ⟨operation, result⟩ certificate := by
  rintro ⟨issued, issues, same⟩
  cases revokes with
  | signedOut =>
    cases effect with
    | passed passes => exact passes.issues_nothing issues
    | opened asks opens => contradiction
    | ended current => cases issues
  | rotated other =>
    cases issues
    exact other same

end Operation

namespace Authority
variable {authority : Authority Registry} {log : List Entry} {world : World Registry}
  {certificate : Bytes}

theorem Run.serves_iff (run : authority.Run log world)
    (owned : DigestOwned certificate (certificatesOf log)) :
    world.store.Serves certificate ↔ InForce log certificate := by
  induction run with
  | initial =>
    refine iff_of_false ?_ not_inForce_nil
    rintro ⟨s, found, -⟩
    exact Registry.not_sessionByCertificate_empty found
  | @step log before after entry run ended ih =>
    have earlier : DigestOwned certificate (certificatesOf log) := fun other mem =>
      owned other (certificatesOf_subset_cons log entry mem)
    obtain ⟨kept, issues⟩ := run.certificates_cover entry
    rw [(Operation.effect ended).serves_iff run.orderly owned kept issues, ih earlier,
      inForce_cons_iff]

theorem Run.silent_of_revokes (run : authority.Run log world) {entry : Entry} (mem : entry ∈ log)
    (revokes : entry.Revokes certificate) : ¬ entry.Returns certificate := by
  induction run with
  | initial => contradiction
  | step run ended ih =>
    rcases List.mem_cons.mp mem with rfl | mem
    · exact (Operation.effect ended).silent_of_revokes revokes
    · exact ih mem

/-- The one answer to a certificate that leads nowhere; a session whose user is gone does not exist. -/
theorem refresh_eq_noSessionFound_iff (authority : Authority Registry) (held : world.Orderly)
    (certificate : Bytes) (now : Instant) :
    ((authority.refresh certificate now).run world).result = .error .noSessionFound ↔
      ¬ world.store.Serves certificate := by
  rw [refresh_eq_error_iff, Declines.noSessionFound_iff fun _ => held.owner_of_found]
  simp only [Session.state_eq_invalidated_iff, Registry.Serves, not_exists, not_and, Bool.not_eq_true]

/-- A renewal succeeds only for a certificate that is in force; for all others no session is found. In
particular none is found after a sign-out or a rotation, until an operation returns the same octets again. -/
theorem Run.refresh_in_force (run : authority.Run log world)
    (owned : DigestOwned certificate (certificatesOf log)) (now : Instant) :
    (∀ issued, ((authority.refresh certificate now).run world).result = .ok issued →
      InForce log certificate) ∧
    (((authority.refresh certificate now).run world).result = .error .noSessionFound ↔
      ¬ InForce log certificate) ∧
    ∀ later revoking earlier, log = later ++ revoking :: earlier → revoking.Revokes certificate →
      (∀ entry ∈ later, ¬ entry.Returns certificate) →
      ((authority.refresh certificate now).run world).result = .error .noSessionFound := by
  have answer := authority.refresh_eq_noSessionFound_iff run.orderly certificate now
  rw [run.serves_iff owned] at answer
  refine ⟨?_, answer, ?_⟩
  · intro issued renewed
    by_contra ended
    rw [answer.mpr ended] at renewed
    contradiction
  · rintro later revoking earlier rfl revokes since
    have silent := run.silent_of_revokes (by simp) revokes
    exact answer.mpr (not_inForce_of_revokes revokes silent since)

end Authority
end

/-! A user who renews a session and then tries the first certificate again. -/
namespace Rotation
open Newcomer

def authority : Authority Registry := .standard key

def renewal : Operation := .refresh (certificate authority) (day 1)

def renewed := (renewal.deed authority).run (registered authority).state

def bothLogged : List Entry := ⟨renewal, renewed.result⟩ :: log authority

theorem refresh_first_again :
    ∃ other, renewed.result = .ok (some other) ∧ other.bytes ≠ certificate authority ∧
      ((authority.refresh (certificate authority) (day 2)).run renewed.state).result =
        .error .noSessionFound := by
  have run : authority.Run bothLogged renewed.state := (run_log authority).next renewal
  obtain ⟨owned, other, issued, apart⟩ :
      DigestOwned (certificate authority) (certificatesOf bothLogged) ∧
        ∃ other ∈ (Entry.mk renewal renewed.result).issued?.toList,
          other.bytes ≠ certificate authority := by
    unfold DigestOwned
    decide +kernel
  have issues : renewed.result = .ok (some other) :=
    Entry.issued?_eq_some_iff.mp (Option.mem_toList.mp issued)
  have revokes : Entry.Revokes (certificate authority) ⟨renewal, renewed.result⟩ := by
    rw [issues]
    exact .rotated apart
  obtain ⟨-, -, refused⟩ := run.refresh_in_force owned (day 2)
  exact ⟨other, issues, apart, refused [] _ _ rfl revokes (by simp)⟩

end Rotation
end CertifiedAccess
