import CertifiedAccess.Key.Ed25519
import CertifiedAccess.Proofs.Authority.Histories

/-!
Footprints: what a sign-in, a renewal and a sign-out touch. One that fails touches nothing. One that succeeds
leaves all accounts as they are, and of the records of sessions all but one; and a sign-out that is done
again finds nothing left to do.
-/
namespace CertifiedAccess
open CertifiedAccess.Action

namespace Registry

/-- Accounts stay as they are, and so do the records of sessions but for what is kept under one id. -/
structure OnlyAt (id : SessionId) (record : Option Session) (r r' : Registry) : Prop where
  accounts : r'.accounts = r.accounts
  registered : r'.registered = r.registered
  sessions : ∀ other, r'.sessions.get? other = if other = id then record else r.sessions.get? other

theorem onlyAt_put (session : Session) (r : Registry) :
    OnlyAt session.id (some session) r (r.put session) where
  accounts := rfl
  registered := rfl
  sessions other := by
    simp only [put, Table.get?_insert, eq_comm (a := other)]

theorem onlyAt_remove (id : SessionId) (r : Registry) : OnlyAt id none r (r.remove id) := by
  obtain ⟨accounts, registered⟩ := accounts_remove id r
  refine ⟨accounts, registered, fun other => ?_⟩
  unfold remove
  cases stored : r.sessions.get? id with
  | none =>
    by_cases here : other = id
    · subst here
      rw [if_pos rfl]
      exact stored
    · rw [if_neg here]
  | some old => simp only [Table.get?_erase, eq_comm (a := other)]

/-- Saving a session again as it is changes nothing. -/
theorem put_put (session : Session) (r : Registry) : (r.put session).put session = r.put session := by
  have stored : (r.put session).sessions.get? session.id = some session :=
    Table.get?_insert_self _ _ _
  have led : (r.put session).index.get? (Sha256.digest session.certificate) = some session.id :=
    Table.get?_insert_self _ _ _
  unfold put at *
  simp only [stored, if_true, Table.insert_eq_self stored, Table.insert_eq_self led]

end Registry

theorem World.Orderly.get?_of_found {world : World Registry} (held : world.Orderly)
    {certificate : Bytes} {session : Session}
    (found : world.store.sessionByCertificate certificate = some session) :
    world.store.sessions.get? session.id = some session :=
  (Registry.mem_sessions_iff held.keyed).mp (Registry.mem_sessions_of_found found)

namespace Authority
variable {authority : Authority Registry} {r : Registry} {certificate : Bytes} {session : Session}

theorem onlyAt_ended (session : Session) (r : Registry) :
    Registry.OnlyAt session.id
      (if authority.retainSignedOut then some { session with valid := false } else none) r
      (authority.ended session r) := by
  unfold ended
  split
  · exact Registry.onlyAt_put session.invalidated r
  · exact Registry.onlyAt_remove session.id r

/-- What a sign-out leaves under its certificate is a record that is signed out already. -/
theorem ended_ended (keyed : r.KeyedById) (current : r.sessionByCertificate certificate = some session)
    {left : Session} (again : (authority.ended session r).sessionByCertificate certificate = some left) :
    authority.ended left (authority.ended session r) = authority.ended session r := by
  cases retains : authority.retainSignedOut with
  | true =>
    simp only [ended, retains, if_true] at again ⊢
    have octets : session.invalidated.certificate = certificate :=
      (Registry.certificate_of_found current : session.certificate = certificate)
    have kept := Registry.sessionByCertificate_put_self r session.invalidated
    rw [octets, again] at kept
    cases kept
    exact Registry.put_put session.invalidated r
  | false =>
    simp only [ended, retains] at again
    obtain ⟨found, apart⟩ := (Registry.sessionByCertificate_remove_iff keyed).mp again
    rw [current] at found
    cases found
    exact absurd rfl apart

end Authority

section
variable [SignatureScheme]

namespace Authority
variable {authority : Authority Registry} {before after : World Registry}

theorem signIn_only (held : before.Orderly) {credentials : Credentials} {client : PublicKey}
    {options : SignInOptions} {now : Instant} {result : Except SessionError IssuedCertificate}
    (ended : (authority.signIn credentials client options now).Ends before result after) :
    (∀ e, result = .error e → after = before) ∧
      ∀ issued, result = .ok issued → ∃ session : Session,
        issued = ⟨session.certificate, session.expiresAt, session.id⟩ ∧
        before.store.sessions.get? session.id = none ∧
        Registry.OnlyAt session.id (some session) before.store after.store := by
  cases known : before.store.accountByCredentials credentials with
  | none =>
    obtain ⟨rfl, rfl⟩ := ends_unique ended (signIn_ends_of_unknown known)
    exact ⟨fun _ _ => rfl, fun _ issues => nomatch issues⟩
  | some account =>
    rcases authority.openSession_ends before account client options now with
      ⟨e, -, failed⟩ | ⟨session, opens, done⟩
    · obtain ⟨rfl, rfl⟩ := ends_unique ended (signIn_ends_of_known known failed)
      exact ⟨fun _ _ => rfl, fun _ issues => nomatch issues⟩
    · obtain ⟨rfl, rfl⟩ := ends_unique ended (signIn_ends_of_known known done)
      have unused : before.store.sessions.get? session.id = none := by
        rw [Option.eq_none_iff_forall_ne_some]
        intro other stored
        have own := held.keyed _ other stored
        exact (Operation.Asks.signIn known).unused held opens
          (Table.mem_values_iff.mpr ⟨_, stored⟩) own.symm
      refine ⟨(fun _ failed => nomatch failed), fun _ issues => ?_⟩
      cases issues
      exact ⟨session, rfl, unused, Registry.onlyAt_put session before.store⟩

theorem refresh_only (held : before.Orderly) {certificate : Bytes} {now : Instant}
    {result : Except SessionError IssuedCertificate}
    (ended : (authority.refresh certificate now).Ends before result after) :
    (∀ e, result = .error e → after = before) ∧
      ∀ issued, result = .ok issued → ∃ session,
        before.store.sessionByCertificate certificate = some session ∧
        before.store.sessions.get? session.id = some session ∧ issued.sessionId = session.id ∧
        Registry.OnlyAt session.id
          (some { session with certificate := issued.bytes, expiresAt := issued.expiresAt })
          before.store after.store := by
  rcases authority.refresh_ends before certificate now with
    ⟨e, -, failed⟩ | ⟨session, account, renewed, renews, done⟩
  · obtain ⟨rfl, rfl⟩ := ends_unique ended failed
    exact ⟨fun _ _ => rfl, fun _ issues => nomatch issues⟩
  · obtain ⟨rfl, rfl⟩ := ends_unique ended done
    have own : renewed.id = session.id := renews.frame.1
    have only := Registry.onlyAt_put renewed before.store
    rw [own] at only
    refine ⟨(fun _ failed => nomatch failed), fun _ issues => ?_⟩
    cases issues
    exact ⟨session, renews.current, held.get?_of_found renews.current, own, renews.made ▸ only⟩

omit [SignatureScheme] in
theorem signOut_only (held : before.Orderly) {certificate : Bytes} {result : Except SessionError Unit}
    (ended : (authority.signOut certificate).Ends before result after) :
    result = .ok () ∧ (before.store.sessionByCertificate certificate = none → after = before) ∧
      ∀ session, before.store.sessionByCertificate certificate = some session →
        before.store.sessions.get? session.id = some session ∧
        Registry.OnlyAt session.id
          (if authority.retainSignedOut then some { session with valid := false } else none)
          before.store after.store := by
  rcases authority.signOut_ends before certificate with
    ⟨none_there, nothing⟩ | ⟨session, current, removed⟩
  · obtain ⟨rfl, rfl⟩ := ends_unique ended nothing
    refine ⟨rfl, fun _ => rfl, fun session current => ?_⟩
    rw [none_there] at current
    contradiction
  · obtain ⟨rfl, rfl⟩ := ends_unique ended removed
    refine ⟨rfl, fun none_there => ?_, fun session' current' => ?_⟩
    · rw [none_there] at current
      contradiction
    · rw [current] at current'
      cases current'
      exact ⟨held.get?_of_found current, onlyAt_ended session before.store⟩

omit [SignatureScheme] in
theorem signOut_again (held : before.Orderly) {certificate : Bytes} {result : Except SessionError Unit}
    (ended : (authority.signOut certificate).Ends before result after) :
    (authority.signOut certificate).Ends after (.ok ()) after := by
  rcases authority.signOut_ends before certificate with
    ⟨-, nothing⟩ | ⟨session, current, removed⟩
  · obtain ⟨-, rfl⟩ := ends_unique ended nothing
    exact nothing
  · obtain ⟨-, rfl⟩ := ends_unique ended removed
    rcases authority.signOut_ends ⟨authority.ended session before.store, before.drawn⟩ certificate with
      ⟨-, nothing⟩ | ⟨left, again, removed'⟩
    · exact nothing
    · rwa [ended_ended held.keyed current again] at removed'

/-- A sign-in or a renewal that fails leaves the world as it was. A sign-in that succeeds adds one session,
with what it returns. A renewal that succeeds writes what it returns into the one session that it found,
and nothing else. A sign-out never fails; it takes away the one session that it finds, or marks its record
where records are kept, and done twice it does what it does once. -/
theorem Run.footprints {log : List Entry} (run : authority.Run log before) :
    (∀ credentials client options now result after,
      (authority.signIn credentials client options now).Ends before result after →
      (∀ e, result = .error e → after = before) ∧
      ∀ issued, result = .ok issued → ∃ session : Session,
        issued = ⟨session.certificate, session.expiresAt, session.id⟩ ∧
        before.store.sessions.get? session.id = none ∧
        Registry.OnlyAt session.id (some session) before.store after.store) ∧
    (∀ certificate now result after,
      (authority.refresh certificate now).Ends before result after →
      (∀ e, result = .error e → after = before) ∧
      ∀ issued, result = .ok issued → ∃ session,
        before.store.sessionByCertificate certificate = some session ∧
        before.store.sessions.get? session.id = some session ∧ issued.sessionId = session.id ∧
        Registry.OnlyAt session.id
          (some { session with certificate := issued.bytes, expiresAt := issued.expiresAt })
          before.store after.store) ∧
    ∀ certificate result after, (authority.signOut certificate).Ends before result after →
      (result = .ok () ∧ (before.store.sessionByCertificate certificate = none → after = before) ∧
        ∀ session, before.store.sessionByCertificate certificate = some session →
          before.store.sessions.get? session.id = some session ∧
          Registry.OnlyAt session.id
            (if authority.retainSignedOut then some { session with valid := false } else none)
            before.store after.store) ∧
      (authority.signOut certificate).Ends after (.ok ()) after := by
  have held := run.orderly
  refine ⟨?_, ?_, ?_⟩
  · intro credentials client options now result after ended
    exact signIn_only held ended
  · intro certificate now result after ended
    exact refresh_only held ended
  · intro certificate result after ended
    exact ⟨signOut_only held ended, signOut_again held ended⟩

end Authority
end

/-! A user who signs out, twice, at an authority that keeps records of sessions that were signed out. -/
namespace Leaving
open Newcomer

def authority : Authority Registry :=
  { (.standard key : Authority Registry) with retainSignedOut := true }

def left := (authority.signOut (certificate authority)).run (registered authority).state

theorem signOut_twice :
    left.result = .ok () ∧
      (∃ session, (registered authority).state.store.sessionByCertificate (certificate authority) =
          some session ∧
        left.state.store.sessions.get? session.id = some { session with valid := false }) ∧
      (authority.signOut (certificate authority)).Ends left.state (.ok ()) left.state := by
  obtain ⟨session, found⟩ : ∃ session ∈ ((registered authority).state.store.sessionByCertificate
      (certificate authority)).toList, session.valid = true := by
    decide +kernel
  have current := Option.mem_toList.mp found.1
  obtain ⟨-, -, signOuts⟩ := (run_log authority).footprints
  obtain ⟨⟨ok, -, marks⟩, again⟩ := signOuts _ _ left.state ⟨rfl, rfl⟩
  refine ⟨ok, ⟨session, current, ?_⟩, again⟩
  rw [(marks session current).2.sessions, if_pos rfl]
  rfl

end Leaving
end CertifiedAccess
