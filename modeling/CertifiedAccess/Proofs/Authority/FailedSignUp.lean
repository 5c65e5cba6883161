import CertifiedAccess.Key.Ed25519
import CertifiedAccess.Proofs.Authority.Accounts

/-!
Sign-ups that fail. The account is made before the session, and nothing takes an account away, so a sign-up
that finds the name free leaves the account behind even when it ends in an error. The name is then taken for
good; but signing in does from there on what the sign-up would have done, so nothing is lost but the choice
of the password.
-/
namespace CertifiedAccess
open CertifiedAccess.Action

namespace Registry
variable {r : Registry} {credentials : Credentials} {created : Change Registry Account}

/-- An account is found by its credentials once it has been made. -/
theorem accountByCredentials_of_createAccount (made : r.createAccount credentials = .ok created) :
    created.state.accountByCredentials credentials = some created.value := by
  obtain ⟨-, rfl⟩ := createAccount_eq_ok_iff.mp made
  have own : ((r.nextAccount credentials).password == credentials.password) = true :=
    beq_self_eq_true credentials.password
  rw [accountByCredentials, get?_enrolling, if_pos rfl, Option.filter_some, if_pos own]

/-- Who was registered is found by the credentials of the registration. -/
theorem Enrolled.accountByCredentials_ne_none {log : List Entry} (held : r.Enrolled log)
    (known : credentials ∈ registrations log) : r.accountByCredentials credentials ≠ none := by
  rw [ne_eq, held.accountByCredentials_eq_none_iff]
  rintro (nobody | ⟨registered, enrolled, named, other⟩)
  · rw [← credentials_accountsOf log] at known
    obtain ⟨account, stands, rfl⟩ := List.mem_map.mp known
    exact nobody account stands rfl
  · have one := List.inj_on_of_nodup_map (nodup_registrations log) enrolled known named
    exact other (congrArg Credentials.password one)

end Registry

section
variable [SignatureScheme] {authority : Authority Registry} {before after : World Registry}
  {credentials : Credentials} {client : PublicKey} {now : Instant} {e : SessionError}

/-- The two ways of a sign-up to fail: the name is taken, or there is an account now and no session. -/
theorem Operation.Effect.signUp_error
    (effect : Effect authority before (.signUp credentials client now) (.error e) after) :
    before.store.accounts.contains credentials.username = true ∧ e = .userAlreadyExists ∧
        after = before ∨
      ∃ created, before.store.createAccount credentials = .ok created ∧
        after = ⟨created.state, before.drawn⟩ ∧
        authority.Refuses after created.value client .persistent now e := by
  cases effect with
  | passed passes =>
    cases passes with
    | taken known => exact .inl ⟨known, rfl, rfl⟩
    | refused asks refuses =>
      cases asks with
      | signUp made => exact .inr ⟨_, made, rfl, refuses⟩

namespace Authority

/-- Signing in to the account that a sign-up has left is signing up. -/
theorem signIn_of_createAccount {created : Change Registry Account}
    (made : before.store.createAccount credentials = .ok created) (client : PublicKey) (now : Instant) :
    (authority.signUp credentials client now).Ends before
      ((authority.signIn credentials client .persistent now).run ⟨created.state, before.drawn⟩).result
      ((authority.signIn credentials client .persistent now).run
        ⟨created.state, before.drawn⟩).state := by
  have known := Registry.accountByCredentials_of_createAccount made
  have signed_in : (authority.signIn credentials client .persistent now).Ends
    ⟨created.state, before.drawn⟩ _ _ := signIn_ends_of_known known ⟨rfl, rfl⟩
  obtain ⟨result, state⟩ := signed_in
  rw [result, state]
  exact signUp_ends_of_made made ⟨rfl, rfl⟩

variable {log later : List Entry} {world : World Registry}

/-- A name that was free at some sign-up is taken ever after, and its credentials are good. -/
theorem Run.registered_after {entry : Entry} (run : authority.Run log before)
    (free : before.store.accounts.contains credentials.username = false)
    (someone : entry.operation.newcomer? = some credentials)
    (run' : authority.Run (later ++ entry :: log) world) :
    (∀ (again : Credentials) (client : PublicKey) (now : Instant),
      again.username = credentials.username →
        ((authority.signUp again client now).run world).result = .error .userAlreadyExists) ∧
    ∀ (client : PublicKey) (options : SignInOptions) (now : Instant),
      ((authority.signIn credentials client options now).run world).result ≠ .error .loginFailed := by
  have new : credentials.username ∉ (registrations log).map (·.username) := by
    rw [← run.enrolled.contains_iff, free]
    exact Bool.false_ne_true
  have known : credentials ∈ registrations (later ++ entry :: log) := by
    have earlier := registrations_prefix later (entry :: log)
    apply earlier.subset
    rw [registrations_cons_of_not_mem someone new]
    exact List.mem_append_right _ (List.mem_singleton_self credentials)
  constructor
  · intro again client now named
    rw [signUp_userAlreadyExists_iff, run'.enrolled.contains_iff, named]
    exact List.mem_map_of_mem known
  · intro client options now
    rw [ne_eq, signIn_loginFailed_iff]
    exact run'.enrolled.accountByCredentials_ne_none known

/-- A sign-up that fails opens no session and leaves all sessions as they are. If the name was taken nothing
happens at all. Otherwise the account is there from then on: no later sign-up gets the name, and the
credentials are never refused. A user who then signs in, for a persistent session and with any key, gets
what the sign-up would have given if the failed one had never been made, and leaves the same world. -/
theorem Run.signUp_failed (run : authority.Run log before)
    (failed : (authority.signUp credentials client now).Ends before (.error e) after) :
    (after.store.sessions = before.store.sessions ∧ after.store.index = before.store.index ∧
      after.drawn = before.drawn) ∧
    (e = .userAlreadyExists ↔ before.store.accounts.contains credentials.username = true) ∧
    (e = .userAlreadyExists → after = before) ∧
    (e ≠ .userAlreadyExists →
      after.store.registered = before.store.registered + 1 ∧
      after.store.accounts.entries = before.store.accounts.entries ++
        [(credentials.username, before.store.nextAccount credentials)] ∧
      authority.Refuses after (before.store.nextAccount credentials) client .persistent now e ∧
      (∀ client' now', (authority.signUp credentials client' now').Ends before
        ((authority.signIn credentials client' .persistent now').run after).result
        ((authority.signIn credentials client' .persistent now').run after).state) ∧
      ∀ later world, authority.Run (later ++ ⟨.signUp credentials client now, .error e⟩ :: log) world →
        (∀ (again : Credentials) client' now', again.username = credentials.username →
          ((authority.signUp again client' now').run world).result = .error .userAlreadyExists) ∧
        ∀ client' options now',
          ((authority.signIn credentials client' options now').run world).result ≠
            .error .loginFailed) := by
  have ended : ((Operation.signUp credentials client now).deed authority).Ends before (.error e) after :=
    ends_some failed
  have effect := Operation.effect ended
  have kept : after.store.sessions = before.store.sessions ∧ after.store.index = before.store.index ∧
      after.drawn = before.drawn := by
    cases effect with
    | passed passes => exact passes.frame
  refine ⟨kept, ?_⟩
  -- only the second way to fail has changed anything
  rcases effect.signUp_error with ⟨taken, rfl, rfl⟩ | ⟨created, made, rfl, refuses⟩
  · exact ⟨iff_of_true rfl taken, fun _ => rfl, fun other => absurd rfl other⟩
  · have other := refuses.error_ne.1
    have retried (client' now') : (authority.signUp credentials client' now').Ends before _ _ :=
      signIn_of_createAccount made client' now'
    obtain ⟨free, rfl⟩ := Registry.createAccount_eq_ok_iff.mp made
    refine ⟨iff_of_false other (free ▸ Bool.false_ne_true), fun same => absurd same other, fun _ => ?_⟩
    refine ⟨rfl, Table.entries_insert_of_absent free, refuses, retried, ?_⟩
    exact fun later world run' => run.registered_after free rfl run'

end Authority
end

/-! A user who signs up so near the end of time that no certificate can expire later. -/
namespace TooLate
open Newcomer

def authority : Authority Registry := .standard key

/-- The last second that can be written. -/
def late : Instant :=
  ⟨Instant.lastSecond, 0, by decide, Int.le_refl _, wholeSecond_lt, by decide⟩

def start : World Registry := ⟨.empty, 0⟩

def attempted := (authority.signUp credentials device.publicKey late).run start

theorem signUp_ends :
    ∃ e, e ≠ SessionError.userAlreadyExists ∧
      (authority.signUp credentials device.publicKey late).Ends start (.error e) attempted.state := by
  refine ⟨.certificateCreationFailed (.expiryOutOfRange late authority.sessionWindow), by decide, ?_, rfl⟩
  decide +kernel

theorem signIn_like_signUp :
    ((authority.signIn credentials device.publicKey .persistent (day 0)).run attempted.state).result =
        ((authority.signUp credentials device.publicKey (day 0)).run start).result ∧
      attempted.state.store.accounts.entries =
        [("alice", ⟨"user-1", "alice", "secret", [], true⟩)] := by
  obtain ⟨e, other, failed⟩ := signUp_ends
  obtain ⟨-, -, -, rest⟩ := Authority.Run.initial.signUp_failed failed
  obtain ⟨-, entries, -, retried, -⟩ := rest other
  exact ⟨(retried device.publicKey (day 0)).1.symm, entries⟩

/-- The attempt has failed, and yet the name is taken. -/
theorem signUp_leaves_account :
    (∃ e, (authority.signUp credentials device.publicKey late).Ends start (.error e) attempted.state) ∧
      attempted.state.store.accounts ≠ start.store.accounts ∧
      ((authority.signUp credentials device.publicKey (day 0)).run attempted.state).result =
        .error .userAlreadyExists ∧
      ((authority.signUp credentials device.publicKey (day 0)).run start).result ≠
        .error .userAlreadyExists := by
  obtain ⟨e, -, failed⟩ := signUp_ends
  have taken : attempted.state.store.accounts.contains "alice" = true := by decide +kernel
  refine ⟨⟨e, failed⟩, ?_, (Authority.signUp_userAlreadyExists_iff _ _ _ _).mpr taken, ?_⟩
  · intro same
    rw [same] at taken
    contradiction
  · rw [ne_eq, Authority.signUp_userAlreadyExists_iff]
    decide

end TooLate
end CertifiedAccess
