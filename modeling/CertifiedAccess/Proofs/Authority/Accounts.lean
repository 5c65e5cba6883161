import CertifiedAccess.Key.Ed25519
import CertifiedAccess.Proofs.Authority.Registrations

/-!
The accounts of a registry. Every operation does to them what the history says, so after any run the
registry holds the registered accounts, in their order, each with what was assigned to it last.
-/
namespace CertifiedAccess

namespace Registry

/-- The registry has exactly the accounts that the history tells of. -/
structure Enrolled (r : Registry) (log : List Entry) : Prop where
  accounts : r.accounts.entries = (accountsOf log).map fun a => (a.username, a)
  registered : r.registered = (registrations log).length

variable {r r' : Registry} {log : List Entry} {entry : Entry}

theorem Enrolled.values (held : r.Enrolled log) : r.accounts.values = accountsOf log := by
  rw [Table.values, held.accounts, List.map_map]
  exact List.map_id _

theorem Enrolled.contains_iff (held : r.Enrolled log) (username : String) :
    r.accounts.contains username = true ↔ username ∈ (registrations log).map (·.username) := by
  rw [Table.contains_iff, held.accounts, List.map_map, ← usernames_accountsOf]
  exact Iff.rfl

/-- Nothing happens to the accounts. -/
theorem Enrolled.idle (held : r.Enrolled log) (accounts : r'.accounts = r.accounts)
    (registered : r'.registered = r.registered)
    (same : registrations (entry :: log) = registrations log)
    (keeps : ∀ a, entry.operation.revise a = a) : r'.Enrolled (entry :: log) where
  accounts := by
    rw [accounts, held.accounts, accountsOf_cons_of_same same, List.map_congr_left fun a _ => keeps a,
      List.map_id']
  registered := by rw [registered, held.registered, same]

theorem Enrolled.createAccount (held : r.Enrolled log) {credentials : Credentials}
    {created : Change Registry Account} (made : r.createAccount credentials = .ok created)
    (someone : entry.operation.newcomer? = some credentials)
    (keeps : ∀ a, entry.operation.revise a = a) : created.state.Enrolled (entry :: log) := by
  obtain ⟨new, rfl⟩ := createAccount_eq_ok_iff.mp made
  have free : credentials.username ∉ (registrations log).map (·.username) := by
    rw [← held.contains_iff, new]
    exact Bool.false_ne_true
  have more := registrations_cons_of_not_mem someone free
  constructor
  · rw [enrolling, Table.entries_insert_of_absent new, nextAccount, held.accounts, held.registered,
      accountsOf_cons_of_more free more, List.map_congr_left fun a _ => keeps a, List.map_id',
      List.map_append, List.map_singleton]
  · rw [enrolling, held.registered, more, List.length_append, List.length_singleton]

theorem Enrolled.assign (held : r.Enrolled log) {username : String} {f : Account → Account}
    (assigns : Operation.Assigns entry.operation username f)
    (same : registrations (entry :: log) = registrations log) :
    { r with accounts := r.accounts.modify username f }.Enrolled (entry :: log) where
  accounts := by
    simp only [Table.modify]
    rw [held.accounts, accountsOf_cons_of_same same, List.map_map, List.map_map]
    refine List.map_congr_left fun a _ => ?_
    simp only [Function.comp_apply, Operation.revise_of_assigns assigns]
    by_cases here : a.username = username
    · rw [if_pos here, if_pos here, assigns.username_eq]
    · rw [if_neg here, if_neg here]
  registered := by rw [held.registered, same]

theorem accountById_of_mem (distinct : (r.accounts.values.map (·.id)).Nodup) {account : Account}
    (stands : account ∈ r.accounts.values) : r.accountById account.id = some account := by
  obtain ⟨found, same⟩ := exists_accountById ⟨account, stands, rfl⟩
  obtain ⟨stands', own⟩ := mem_accounts_of_accountById same
  rw [same, List.inj_on_of_nodup_map distinct stands' stands own]

theorem Enrolled.get?_eq_some_iff (held : r.Enrolled log) {username : String} {account : Account} :
    r.accounts.get? username = some account ↔
      account ∈ accountsOf log ∧ account.username = username := by
  rw [← Table.mem_entries_iff, held.accounts, List.mem_map]
  constructor
  · rintro ⟨account, known, ⟨⟩⟩
    exact ⟨known, rfl⟩
  · rintro ⟨known, rfl⟩
    exact ⟨account, known, rfl⟩

theorem Enrolled.accountByCredentials_eq_none_iff (held : r.Enrolled log) (credentials : Credentials) :
    r.accountByCredentials credentials = none ↔
      (∀ account ∈ accountsOf log, account.username ≠ credentials.username) ∨
        ∃ registered ∈ registrations log,
          registered.username = credentials.username ∧ registered.password ≠ credentials.password := by
  simp only [Registry.accountByCredentials]
  cases stored : r.accounts.get? credentials.username with
  | none =>
    refine iff_of_true (Option.filter_none _) (.inl ?_)
    intro account known named
    rw [held.get?_eq_some_iff.mpr ⟨known, named⟩] at stored
    contradiction
  | some account =>
    obtain ⟨known, named⟩ := held.get?_eq_some_iff.mp stored
    have enrolled : account.credentials ∈ registrations log := by
      rw [← credentials_accountsOf log]
      exact List.mem_map_of_mem known
    rw [Option.filter_eq_none_iff]
    constructor
    · intro refused
      refine .inr ⟨account.credentials, enrolled, named, ?_⟩
      intro same
      exact refused account rfl (beq_iff_eq.mpr same)
    · rintro (nobody | ⟨registered, enrolled', named', other⟩) _ ⟨⟩ same
      · exact nobody account known named
      · -- each name is registered once, so there is no other password for it
        have one := List.inj_on_of_nodup_map (nodup_registrations log) enrolled' enrolled
          (named'.trans named.symm)
        rw [one] at other
        exact other (beq_iff_eq.mp same)

end Registry

section
open CertifiedAccess.Action
variable [SignatureScheme] {authority : Authority Registry}

/-- A session that is refused is never refused for the name or the password: these were checked before. -/
theorem Authority.Refuses.error_ne {world : World Registry} {account : Account} {client : PublicKey}
    {options : SignInOptions} {now : Instant} {e : SessionError}
    (refuses : authority.Refuses world account client options now e) :
    e ≠ .userAlreadyExists ∧ e ≠ .loginFailed := by
  cases refuses with
  | undecided failed => exact ⟨nofun, nofun⟩
  | vetoed denied => exact ⟨nofun, nofun⟩
  | unminted allowed failed => exact ⟨nofun, nofun⟩

namespace Operation
variable {before after : World Registry} {log : List Entry} {operation : Operation}
  {result : Except SessionError (Option IssuedCertificate)}

omit [SignatureScheme] in
theorem Asks.enrolled {r store : Registry} {account : Account} {client : PublicKey}
    {options : SignInOptions} {now : Instant} (held : r.Enrolled log)
    (asks : Asks r operation account client options now store) :
    store.Enrolled (⟨operation, result⟩ :: log) := by
  cases asks with
  | signUp made => exact held.createAccount made rfl fun _ => rfl
  | signIn known => exact held.idle rfl rfl rfl fun _ => rfl

theorem Passes.enrolled (held : before.store.Enrolled log)
    (passes : Passes authority before operation result after) :
    after.store.Enrolled (⟨operation, result⟩ :: log) := by
  cases passes with
  | taken known =>
    have taken := (held.contains_iff _).mp known
    exact held.idle rfl rfl (registrations_cons_of_mem rfl taken) fun _ => rfl
  | unknown nobody => exact held.idle rfl rfl rfl fun _ => rfl
  | refused asks refuses => exact asks.enrolled held
  | declined declines => exact held.idle rfl rfl rfl fun _ => rfl
  | absent none_there => exact held.idle rfl rfl rfl fun _ => rfl
  | assigned assigns =>
    refine held.assign assigns (registrations_cons_of_none ?_)
    cases assigns with
    | setRoles => rfl
    | setEnabled => rfl

/-- Each operation, however it ends, does to the accounts what the history says. -/
theorem Effect.enrolled (held : before.store.Enrolled log)
    (effect : Effect authority before operation result after) :
    after.store.Enrolled (⟨operation, result⟩ :: log) := by
  cases effect with
  | passed passes => exact passes.enrolled held
  | opened asks opens =>
    obtain ⟨accounts, registered⟩ := asks.enrolled held
    exact ⟨accounts, registered⟩
  | renewed renews => exact held.idle rfl rfl rfl fun _ => rfl
  | ended current =>
    obtain ⟨accounts, registered⟩ := accounts_ended authority _ _
    exact held.idle accounts registered rfl fun _ => rfl

theorem Effect.userAlreadyExists_iff {credentials : Credentials} {client : PublicKey} {now : Instant}
    (effect : Effect authority before (.signUp credentials client now) result after) :
    result = .error .userAlreadyExists ↔
      before.store.accounts.contains credentials.username = true := by
  cases effect with
  | passed passes =>
    cases passes with
    | taken known => exact iff_of_true rfl known
    | refused asks refuses =>
      cases asks with
      | signUp made =>
        rw [(Registry.createAccount_eq_ok_iff.mp made).1]
        exact iff_of_false (fun same => refuses.error_ne.1 (Except.error.inj same)) Bool.false_ne_true
    | assigned assigns => cases assigns
  | opened asks opens =>
    cases asks with
    | signUp made =>
      rw [(Registry.createAccount_eq_ok_iff.mp made).1]
      exact iff_of_false nofun Bool.false_ne_true

theorem Effect.loginFailed_iff {credentials : Credentials} {client : PublicKey}
    {options : SignInOptions} {now : Instant}
    (effect : Effect authority before (.signIn credentials client options now) result after) :
    result = .error .loginFailed ↔ before.store.accountByCredentials credentials = none := by
  cases effect with
  | passed passes =>
    cases passes with
    | unknown nobody => exact iff_of_true rfl nobody
    | refused asks refuses =>
      cases asks with
      | signIn known =>
        rw [known]
        exact iff_of_false (fun same => refuses.error_ne.2 (Except.error.inj same)) nofun
    | assigned assigns => cases assigns
  | opened asks opens =>
    cases asks with
    | signIn known =>
      rw [known]
      exact iff_of_false nofun nofun

end Operation

namespace Authority
variable {log : List Entry} {world : World Registry}

theorem Run.enrolled (run : authority.Run log world) : world.store.Enrolled log := by
  induction run with
  | initial => exact ⟨rfl, rfl⟩
  | step run ended ih => exact (Operation.effect ended).enrolled ih

theorem signUp_userAlreadyExists_iff (world : World Registry) (credentials : Credentials)
    (client : PublicKey) (now : Instant) :
    ((authority.signUp credentials client now).run world).result = .error .userAlreadyExists ↔
      world.store.accounts.contains credentials.username = true := by
  have ended : ((Operation.signUp credentials client now).deed authority).Ends world _ _ :=
    ends_some ⟨rfl, rfl⟩
  rw [← map_eq_error_iff]
  exact (Operation.effect ended).userAlreadyExists_iff

theorem signIn_loginFailed_iff (world : World Registry) (credentials : Credentials)
    (client : PublicKey) (options : SignInOptions) (now : Instant) :
    ((authority.signIn credentials client options now).run world).result = .error .loginFailed ↔
      world.store.accountByCredentials credentials = none := by
  have ended : ((Operation.signIn credentials client options now).deed authority).Ends world _ _ :=
    ends_some ⟨rfl, rfl⟩
  rw [← map_eq_error_iff]
  exact (Operation.effect ended).loginFailed_iff

/-- What a user is was said at the registration, once and for all: the id by its number, the name and the
password by the first sign-up with that name. The registry has exactly the accounts of the history, and
finds each by its id with the roles and the switch that were assigned last. -/
theorem Run.accounts_fixed (run : authority.Run log world) :
    world.store.accounts.values = accountsOf log ∧
    (world.store.accounts.values.map (·.id)).Nodup ∧
    (world.store.accounts.values.map (·.username)).Nodup ∧
    (∀ account ∈ world.store.accounts.values,
      world.store.accountById account.id = some account) ∧
    (∀ credentials client now,
      ((authority.signUp credentials client now).run world).result = .error .userAlreadyExists ↔
        ∃ account ∈ world.store.accounts.values, account.username = credentials.username) ∧
    (∀ credentials client options now,
      ((authority.signIn credentials client options now).run world).result = .error .loginFailed ↔
        (∀ account ∈ world.store.accounts.values, account.username ≠ credentials.username) ∨
          ∃ registered ∈ registrations log,
            registered.username = credentials.username ∧
              registered.password ≠ credentials.password) ∧
    ∀ later world', authority.Run (later ++ log) world' →
      world.store.accounts.values.map Account.identity <+:
        world'.store.accounts.values.map Account.identity := by
  have held := run.enrolled
  have distinct : (world.store.accounts.values.map (·.id)).Nodup := by
    rw [held.values]
    exact nodup_ids log
  refine ⟨held.values, distinct, ?_, fun _ => Registry.accountById_of_mem distinct, ?_, ?_, ?_⟩
  · rw [held.values]
    exact nodup_usernames log
  · intro credentials client now
    rw [signUp_userAlreadyExists_iff, held.contains_iff, held.values, ← usernames_accountsOf,
      List.mem_map]
  · intro credentials client options now
    rw [signIn_loginFailed_iff, held.accountByCredentials_eq_none_iff, held.values]
  · intro later world' run'
    rw [held.values, run'.enrolled.values]
    exact identities_prefix later log

end Authority
end

/-! A user who signs up and is given a role, and somebody else who signs up with the same name in between. -/
namespace Impostor
open Newcomer

def guess : Credentials := ⟨"alice", "guess"⟩

def authority : Authority Registry := .standard key

def signUpAgain : Operation := .signUp guess device.publicKey (day 1)

def attempted := (signUpAgain.deed authority).run (registered authority).state

def promotion : Operation := .setRoles "alice" [⟨3⟩]

def promoted := (promotion.deed authority).run attempted.state

def allLogged : List Entry :=
  ⟨promotion, promoted.result⟩ :: ⟨signUpAgain, attempted.result⟩ :: log authority

theorem accounts_alice :
    promoted.state.store.accountById "user-1" = some ⟨"user-1", "alice", "secret", [⟨3⟩], true⟩ ∧
      ((authority.signIn guess device.publicKey .persistent (day 2)).run promoted.state).result =
        .error .loginFailed := by
  have run : authority.Run allLogged promoted.state :=
    ((run_log authority).next signUpAgain).next promotion
  obtain ⟨values, -, -, found, -, login, -⟩ := run.accounts_fixed
  have alice : accountsOf allLogged = [⟨"user-1", "alice", "secret", [⟨3⟩], true⟩] := by decide +kernel
  have known : _ ∈ promoted.state.store.accounts.values := values ▸ alice ▸ List.mem_cons_self
  refine ⟨found _ known, ?_⟩
  rw [login]
  exact .inr ⟨credentials, by decide +kernel, rfl, by decide⟩

end Impostor
end CertifiedAccess
