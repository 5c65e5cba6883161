import CertifiedAccess.Proofs.Authority.Issuance
import CertifiedAccess.Proofs.Authority.Operations

/-!
Operations as a relation: what each of them can do to a registry, and what was checked before. Every run
of an operation is one of these effects, so what all effects respect holds of all runs.
-/
namespace CertifiedAccess
open CertifiedAccess.Action

namespace Session
variable {s : Session} {now : Instant}

theorem state_eq_invalidated_iff : s.state now = .invalidated ↔ s.valid = false := by
  unfold state
  cases s.valid with
  | false => simp
  | true => by_cases late : s.expiresAt < now <;> simp [late]

theorem state_eq_expired_iff : s.state now = .expired ↔ s.valid = true ∧ s.expiresAt < now := by
  unfold state
  cases s.valid with
  | false => simp
  | true => by_cases late : s.expiresAt < now <;> simp [late]

theorem state_eq_active_iff : s.state now = .active ↔ s.valid = true ∧ ¬ s.expiresAt < now := by
  unfold state
  cases s.valid with
  | false => simp
  | true => by_cases late : s.expiresAt < now <;> simp [late]

end Session

section
variable [SignatureScheme]

namespace Authority
variable (authority : Authority Registry)

/-- A session that is opened for an account: the policy allows it, the certificate is minted, and the id is
the next one drawn. -/
structure Opens (world : World Registry) (account : Account) (client : PublicKey)
    (options : SignInOptions) (now : Instant) (session : Session) : Prop where
  allowed : authority.creation account.id client now world.store = .ok true
  minted : authority.mint account client (authority.window !options.remember) now =
    .ok (session.certificate, session.expiresAt)
  made : session = .make ⟨world.drawn⟩ account.id client session.certificate session.expiresAt
    options.clientId !options.remember

/-- Why no session is opened. -/
inductive Refuses (world : World Registry) (account : Account) (client : PublicKey)
    (options : SignInOptions) (now : Instant) : SessionError → Prop where
  | undecided {e : StoreError}
    (failed : authority.creation account.id client now world.store = .error e) :
    Refuses world account client options now (.store e)
  | vetoed (denied : authority.creation account.id client now world.store = .ok false) :
    Refuses world account client options now .alreadyLoggedIn
  | unminted {e : CertificateError}
    (allowed : authority.creation account.id client now world.store = .ok true)
    (failed : authority.mint account client (authority.window !options.remember) now = .error e) :
    Refuses world account client options now (.certificateCreationFailed e)

/-- A session that is renewed: it is active, its account exists and may go on, and the new certificate is
minted for the session's own key and window. -/
structure Renews (r : Registry) (certificate : Bytes) (now : Instant) (session : Session)
    (account : Account) (renewed : Session) : Prop where
  current : r.sessionByCertificate certificate = some session
  active : session.state now = .active
  owner : r.accountById session.userId = some account
  eligible : authority.renewal account = true
  minted : authority.mint account session.clientKey (authority.window session.transient) now =
    .ok (renewed.certificate, renewed.expiresAt)
  made : renewed = session.renewed renewed.certificate renewed.expiresAt

/-- Why no session is renewed. -/
inductive Declines (r : Registry) (certificate : Bytes) (now : Instant) : SessionError → Prop where
  | absent (none_there : r.sessionByCertificate certificate = none) :
    Declines r certificate now .noSessionFound
  | invalidated {session : Session} (current : r.sessionByCertificate certificate = some session)
    (stopped : session.state now = .invalidated) : Declines r certificate now .noSessionFound
  | expired {session : Session} (current : r.sessionByCertificate certificate = some session)
    (late : session.state now = .expired) : Declines r certificate now .expiredSession
  | ownerless {session : Session} (current : r.sessionByCertificate certificate = some session)
    (active : session.state now = .active) (unowned : r.accountById session.userId = none) :
    Declines r certificate now .noSessionFound
  | ineligible {session : Session} {account : Account}
    (current : r.sessionByCertificate certificate = some session)
    (active : session.state now = .active) (owner : r.accountById session.userId = some account)
    (denied : authority.renewal account = false) : Declines r certificate now .renewalDenied
  | unminted {session : Session} {account : Account} {e : CertificateError}
    (current : r.sessionByCertificate certificate = some session)
    (active : session.state now = .active) (owner : r.accountById session.userId = some account)
    (eligible : authority.renewal account = true)
    (failed : authority.mint account session.clientKey (authority.window session.transient) now =
      .error e) : Declines r certificate now (.certificateCreationFailed e)

variable {authority}

/-- What a new session says of its account and key. -/
theorem Opens.frame {world : World Registry} {account : Account} {client : PublicKey}
    {options : SignInOptions} {now : Instant} {session : Session}
    (opens : authority.Opens world account client options now session) :
    session.userId = account.id ∧ session.clientKey = client ∧ session.valid = true := by
  rw [opens.made]
  exact ⟨rfl, rfl, rfl⟩

/-- What renewal leaves as it is. -/
theorem Renews.frame {r : Registry} {certificate : Bytes} {now : Instant} {session renewed : Session}
    {account : Account} (renews : authority.Renews r certificate now session account renewed) :
    renewed.id = session.id ∧ renewed.userId = session.userId ∧
      renewed.clientKey = session.clientKey ∧ renewed.valid = true := by
  obtain ⟨valid, -⟩ := Session.state_eq_active_iff.mp renews.active
  rw [renews.made]
  exact ⟨rfl, rfl, rfl, valid⟩

variable (authority)

/-- The registry after a session has been signed out. -/
def ended (session : Session) (r : Registry) : Registry :=
  if authority.retainSignedOut then r.put session.invalidated else r.remove session.id

variable {authority} {world : World Registry}

omit [SignatureScheme] in
theorem ask_yields {α : Type} {question : Registry → Except StoreError α} {a : α}
    (answered : question world.store = .ok a) : (ask question : Deed Registry α).Yields world a world :=
  yields_ask_iff.mpr ⟨answered, rfl⟩

omit [SignatureScheme] in
theorem ask_ends {α : Type} {question : Registry → Except StoreError α} {e : StoreError}
    (failed : question world.store = .error e) :
    (ask question : Deed Registry α).Ends world (.error (.store e)) world := by
  unfold Ends Action.run ask
  rw [failed]
  exact ⟨rfl, rfl⟩

theorem minted_ends {account : Account} {client : PublicKey} {transient : Bool} {now : Instant}
    {e : CertificateError}
    (failed : authority.mint account client (authority.window transient) now = .error e) :
    (authority.minted account client transient now : Deed Registry _).Ends world
      (.error (.certificateCreationFailed e)) world := by
  unfold minted
  rw [failed]
  exact ⟨rfl, rfl⟩

omit [SignatureScheme] in
/-- Sessions of both kinds are kept in one place. -/
theorem persist_yields (session : Session) :
    (persist session : Deed Registry Unit).Yields world () ⟨world.store.put session, world.drawn⟩ := by
  unfold persist
  cases session.transient with
  | true => exact yields_change_iff.mpr ⟨_, rfl, rfl, rfl⟩
  | false => exact yields_change_iff.mpr ⟨_, rfl, rfl, rfl⟩

theorem openSession_ends (world : World Registry) (account : Account) (client : PublicKey)
    (options : SignInOptions) (now : Instant) :
    (∃ e, authority.Refuses world account client options now e ∧
      (authority.openSession account client options now).Ends world (.error e) world) ∨
    ∃ session, authority.Opens world account client options now session ∧
      (authority.openSession account client options now).Ends world (.ok (issuedFor session))
        ⟨world.store.put session, world.drawn + 1⟩ := by
  cases policy : authority.creation account.id client now world.store with
  | error e => exact .inl ⟨_, .undecided policy, ends_bind_of_error (ask_ends policy)⟩
  | ok allowed =>
    cases allowed with
    | false => exact .inl ⟨_, .vetoed policy, ends_bind_of_yields (ask_yields policy) ⟨rfl, rfl⟩⟩
    | true =>
      cases made : authority.mint account client (authority.window !options.remember) now with
      | error e =>
        refine .inl ⟨_, .unminted policy made, ends_bind_of_yields (ask_yields policy) ?_⟩
        exact ends_bind_of_error (minted_ends made)
      | ok result =>
        obtain ⟨bytes, expiresAt⟩ := result
        refine .inr ⟨.make ⟨world.drawn⟩ account.id client bytes expiresAt options.clientId
          !options.remember, ⟨policy, made, rfl⟩, ends_bind_of_yields (ask_yields policy) ?_⟩
        refine ends_bind_of_yields (minted_yields_iff.mpr ⟨made, rfl⟩) ?_
        refine ends_bind_of_yields (yields_drawSessionId_iff.mpr ⟨rfl, rfl⟩) ?_
        exact ends_bind_of_yields (persist_yields _) ⟨rfl, rfl⟩

/-- Signing up is opening a session for the account that has just been made. -/
theorem signUp_ends_of_made {credentials : Credentials} {client : PublicKey} {now : Instant}
    {created : Change Registry Account} (made : world.store.createAccount credentials = .ok created)
    {result : Except SessionError IssuedCertificate} {after : World Registry}
    (ended : (authority.openSession created.value client .persistent now).Ends
      ⟨created.state, world.drawn⟩ result after) :
    (authority.signUp credentials client now).Ends world result after := by
  refine ends_bind_of_yields (changeOr_yields made) ?_
  have reported : (emit (.userRegistered created.value.id) : Deed Registry Unit).Yields
    ⟨created.state, world.drawn⟩ () ⟨created.state, world.drawn⟩ := ⟨rfl, rfl⟩
  exact ends_bind_of_yields reported ended

theorem signIn_ends_of_unknown {credentials : Credentials} {client : PublicKey}
    {options : SignInOptions} {now : Instant}
    (nobody : world.store.accountByCredentials credentials = none) :
    (authority.signIn credentials client options now).Ends world (.error .loginFailed) world := by
  have asked : (ask (Backend.accountByCredentials credentials) : Deed Registry _).Yields world none
    world := ask_yields (congrArg Except.ok nobody)
  exact ends_bind_of_yields asked ⟨rfl, rfl⟩

/-- Signing in is opening one for the account that is found. -/
theorem signIn_ends_of_known {credentials : Credentials} {client : PublicKey}
    {options : SignInOptions} {now : Instant} {account : Account}
    (known : world.store.accountByCredentials credentials = some account)
    {result : Except SessionError IssuedCertificate} {after : World Registry}
    (ended : (authority.openSession account client options now).Ends world result after) :
    (authority.signIn credentials client options now).Ends world result after := by
  have asked : (ask (Backend.accountByCredentials credentials) : Deed Registry _).Yields world
    (some account) world := ask_yields (congrArg Except.ok known)
  exact ends_bind_of_yields asked ended

/-- Once the session is known to be active, all hangs on its account. -/
theorem refresh_ends_of_active {certificate : Bytes} {now : Instant} {session : Session}
    (current : world.store.sessionByCertificate certificate = some session)
    (active : session.state now = .active) :
    (∃ e, authority.Declines world.store certificate now e ∧
      (authority.refresh certificate now).Ends world (.error e) world) ∨
    ∃ account renewed, authority.Renews world.store certificate now session account renewed ∧
      (authority.refresh certificate now).Ends world (.ok (issuedFor renewed))
        ⟨world.store.put renewed, world.drawn⟩ := by
  have asked : (ask (Backend.sessionByCertificate certificate) : Deed Registry _).Yields world
    (some session) world := ask_yields (congrArg Except.ok current)
  have owned : (ask (Backend.accountById session.userId) : Deed Registry _).Yields world
    (world.store.accountById session.userId) world := ask_yields rfl
  obtain ⟨valid, unexpired⟩ := Session.state_eq_active_iff.mp active
  have going : (some session).filter Session.valid = some session := by
    rw [Option.filter_some, if_pos valid]
  unfold refresh
  cases owner : world.store.accountById session.userId with
  | none =>
    rw [owner] at owned
    refine .inl ⟨_, .ownerless current active owner, ends_bind_of_yields asked ?_⟩
    simp only [going, unexpired, if_false]
    exact ends_bind_of_yields owned ⟨rfl, rfl⟩
  | some account =>
    rw [owner] at owned
    cases eligible : authority.renewal account with
    | false =>
      refine .inl ⟨_, .ineligible current active owner eligible, ends_bind_of_yields asked ?_⟩
      simp only [going, unexpired, if_false]
      refine ends_bind_of_yields owned ?_
      simp only [eligible]
      exact ⟨rfl, rfl⟩
    | true =>
      cases made : authority.mint account session.clientKey (authority.window session.transient) now with
      | error e =>
        refine .inl ⟨_, .unminted current active owner eligible made, ends_bind_of_yields asked ?_⟩
        simp only [going, unexpired, if_false]
        refine ends_bind_of_yields owned ?_
        simp only [eligible]
        exact ends_bind_of_error (minted_ends made)
      | ok result =>
        obtain ⟨bytes, expiresAt⟩ := result
        refine .inr ⟨account, session.renewed bytes expiresAt,
          ⟨current, active, owner, eligible, made, rfl⟩, ends_bind_of_yields asked ?_⟩
        simp only [going, unexpired, if_false]
        refine ends_bind_of_yields owned ?_
        simp only [eligible]
        refine ends_bind_of_yields (minted_yields_iff.mpr ⟨made, rfl⟩) ?_
        exact ends_bind_of_yields (persist_yields _) ⟨rfl, rfl⟩

theorem refresh_ends (world : World Registry) (certificate : Bytes) (now : Instant) :
    (∃ e, authority.Declines world.store certificate now e ∧
      (authority.refresh certificate now).Ends world (.error e) world) ∨
    ∃ session account renewed,
      authority.Renews world.store certificate now session account renewed ∧
      (authority.refresh certificate now).Ends world (.ok (issuedFor renewed))
        ⟨world.store.put renewed, world.drawn⟩ := by
  have asked : (ask (Backend.sessionByCertificate certificate) : Deed Registry _).Yields world
    (world.store.sessionByCertificate certificate) world := ask_yields rfl
  cases current : world.store.sessionByCertificate certificate with
  | none =>
    rw [current] at asked
    exact .inl ⟨_, .absent current, ends_bind_of_yields asked ⟨rfl, rfl⟩⟩
  | some session =>
    rw [current] at asked
    cases stands : session.state now with
    | active =>
      rcases refresh_ends_of_active current stands with declined | renewed
      · exact .inl declined
      · exact .inr ⟨session, renewed⟩
    | expired =>
      obtain ⟨valid, late⟩ := Session.state_eq_expired_iff.mp stands
      refine .inl ⟨_, .expired current stands, ends_bind_of_yields asked ?_⟩
      simp only [Option.filter_some, valid, if_true, late]
      exact ⟨rfl, rfl⟩
    | invalidated =>
      have stopped := Session.state_eq_invalidated_iff.mp stands
      refine .inl ⟨_, .invalidated current stands, ends_bind_of_yields asked ?_⟩
      simp only [Option.filter_some, stopped]
      exact ⟨rfl, rfl⟩

omit [SignatureScheme] in
theorem signOut_ends (world : World Registry) (certificate : Bytes) :
    world.store.sessionByCertificate certificate = none ∧
      (authority.signOut certificate).Ends world (.ok ()) world ∨
    ∃ session, world.store.sessionByCertificate certificate = some session ∧
      (authority.signOut certificate).Ends world (.ok ())
        ⟨authority.ended session world.store, world.drawn⟩ := by
  have asked : (ask (Backend.sessionByCertificate certificate) : Deed Registry _).Yields world
    (world.store.sessionByCertificate certificate) world := ask_yields rfl
  cases current : world.store.sessionByCertificate certificate with
  | none =>
    rw [current] at asked
    exact .inl ⟨rfl, ends_bind_of_yields asked ⟨rfl, rfl⟩⟩
  | some session =>
    rw [current] at asked
    refine .inr ⟨session, rfl, ends_bind_of_yields asked ?_⟩
    unfold ended
    cases authority.retainSignedOut with
    | true => exact ends_bind_of_yields (yields_change_iff.mpr ⟨_, rfl, rfl, rfl⟩) ⟨rfl, rfl⟩
    | false => exact ends_bind_of_yields (yields_change_iff.mpr ⟨_, rfl, rfl, rfl⟩) ⟨rfl, rfl⟩

end Authority

namespace Operation
variable (authority : Authority Registry) (before : World Registry)

/-- Operations that ask for a new session: for which account, key and options, when, and in which registry,
where the account is. -/
inductive Asks (r : Registry) :
    Operation → Account → PublicKey → SignInOptions → Instant → Registry → Prop where
  | signUp {credentials : Credentials} {client : PublicKey} {now : Instant}
    {created : Change Registry Account} (made : r.createAccount credentials = .ok created) :
    Asks r (.signUp credentials client now) created.value client .persistent now created.state
  | signIn {credentials : Credentials} {client : PublicKey} {options : SignInOptions}
    {now : Instant} {account : Account} (known : r.accountByCredentials credentials = some account) :
    Asks r (.signIn credentials client options now) account client options now r

/-- Operations that change something about the account with a name. -/
inductive Assigns : Operation → String → (Account → Account) → Prop where
  | setRoles {username : String} {roles : List RoleId} :
    Assigns (.setRoles username roles) username fun a => { a with roles := roles }
  | setEnabled {username : String} {enabled : Bool} :
    Assigns (.setEnabled username enabled) username fun a => { a with enabled := enabled }

/-- The ways of an operation to leave all sessions as they are. -/
inductive Passes :
    Operation → Except SessionError (Option IssuedCertificate) → World Registry → Prop where
  | taken {credentials : Credentials} {client : PublicKey} {now : Instant}
    (known : before.store.accounts.contains credentials.username = true) :
    Passes (.signUp credentials client now) (.error .userAlreadyExists) before
  | unknown {credentials : Credentials} {client : PublicKey} {options : SignInOptions}
    {now : Instant} (nobody : before.store.accountByCredentials credentials = none) :
    Passes (.signIn credentials client options now) (.error .loginFailed) before
  | refused {operation : Operation} {account : Account} {client : PublicKey}
    {options : SignInOptions} {now : Instant} {store : Registry} {e : SessionError}
    (asks : Asks before.store operation account client options now store)
    (refuses : authority.Refuses ⟨store, before.drawn⟩ account client options now e) :
    Passes operation (.error e) ⟨store, before.drawn⟩
  | declined {certificate : Bytes} {now : Instant} {e : SessionError}
    (declines : authority.Declines before.store certificate now e) :
    Passes (.refresh certificate now) (.error e) before
  | absent {certificate : Bytes}
    (none_there : before.store.sessionByCertificate certificate = none) :
    Passes (.signOut certificate) (.ok none) before
  | assigned {operation : Operation} {username : String} {f : Account → Account}
    (assigns : Assigns operation username f) :
    Passes operation (.ok none) { before with
      store := { before.store with accounts := before.store.accounts.modify username f } }

/-- What an operation can do, and how it ends. -/
inductive Effect :
    Operation → Except SessionError (Option IssuedCertificate) → World Registry → Prop where
  | passed {operation : Operation} {result : Except SessionError (Option IssuedCertificate)}
    {after : World Registry} (passes : Passes authority before operation result after) :
    Effect operation result after
  | opened {operation : Operation} {account : Account} {client : PublicKey}
    {options : SignInOptions} {now : Instant} {store : Registry} {session : Session}
    (asks : Asks before.store operation account client options now store)
    (opens : authority.Opens ⟨store, before.drawn⟩ account client options now session) :
    Effect operation (.ok (some (Authority.issuedFor session)))
      ⟨store.put session, before.drawn + 1⟩
  | renewed {certificate : Bytes} {now : Instant} {session : Session} {account : Account}
    {renewed : Session}
    (renews : authority.Renews before.store certificate now session account renewed) :
    Effect (.refresh certificate now) (.ok (some (Authority.issuedFor renewed)))
      ⟨before.store.put renewed, before.drawn⟩
  | ended {certificate : Bytes} {session : Session}
    (current : before.store.sessionByCertificate certificate = some session) :
    Effect (.signOut certificate) (.ok none) ⟨authority.ended session before.store, before.drawn⟩

variable {authority before}

/-- Who asks for a session either gets one or is refused, after the same steps. -/
theorem exists_effect_of_asks {operation : Operation} {account : Account} {client : PublicKey}
    {options : SignInOptions} {now : Instant} {store : Registry}
    (asks : Asks before.store operation account client options now store)
    (goes_on : ∀ result after,
      (authority.openSession account client options now).Ends ⟨store, before.drawn⟩ result after →
      (operation.deed authority).Ends before (result.map some) after) :
    ∃ result after, (operation.deed authority).Ends before result after ∧
      Effect authority before operation result after := by
  rcases authority.openSession_ends ⟨store, before.drawn⟩ account client options now with
    ⟨e, refuses, ended⟩ | ⟨session, opens, ended⟩
  · exact ⟨_, _, goes_on _ _ ended, .passed (.refused asks refuses)⟩
  · exact ⟨_, _, goes_on _ _ ended, .opened asks opens⟩

theorem exists_effect (authority : Authority Registry) (before : World Registry)
    (operation : Operation) :
    ∃ result after, (operation.deed authority).Ends before result after ∧
      Effect authority before operation result after := by
  cases operation with
  | signUp credentials client now =>
    cases made : before.store.createAccount credentials with
    | error e =>
      obtain ⟨known, rfl⟩ := Registry.createAccount_eq_error_iff.mp made
      refine ⟨_, _, ends_bind_of_error (ends_bind_of_error ?_), .passed (.taken known)⟩
      exact Authority.changeOr_ends made ⟨rfl, rfl⟩
    | ok created =>
      exact exists_effect_of_asks (.signUp made) fun result after ended =>
        ends_some (Authority.signUp_ends_of_made made ended)
  | signIn credentials client options now =>
    cases known : before.store.accountByCredentials credentials with
    | none => exact ⟨_, _, ends_some (Authority.signIn_ends_of_unknown known), .passed (.unknown known)⟩
    | some account =>
      exact exists_effect_of_asks (.signIn known) fun result after ended =>
        ends_some (Authority.signIn_ends_of_known known ended)
  | refresh certificate now =>
    rcases authority.refresh_ends before certificate now with
      ⟨e, declines, ended⟩ | ⟨session, account, renewed, renews, ended⟩
    · exact ⟨_, _, ends_some ended, .passed (.declined declines)⟩
    · exact ⟨_, _, ends_some ended, .renewed renews⟩
  | signOut certificate =>
    rcases authority.signOut_ends before certificate with
      ⟨none_there, ended⟩ | ⟨session, current, ended⟩
    · exact ⟨_, _, ends_bind_of_yields ended ⟨rfl, rfl⟩, .passed (.absent none_there)⟩
    · exact ⟨_, _, ends_bind_of_yields ended ⟨rfl, rfl⟩, .ended current⟩
  | setRoles username roles =>
    refine ⟨_, _, ends_bind_of_yields ⟨rfl, ?_⟩ ⟨rfl, rfl⟩, .passed (.assigned .setRoles)⟩
    exact congrArg (World.mk · before.drawn) (Registry.setRoles?_getD username roles before.store)
  | setEnabled username enabled =>
    refine ⟨_, _, ends_bind_of_yields ⟨rfl, ?_⟩ ⟨rfl, rfl⟩, .passed (.assigned .setEnabled)⟩
    exact congrArg (World.mk · before.drawn) (Registry.setEnabled?_getD username enabled before.store)

/-- However an operation ends and whatever it leaves, that is one of its effects. -/
theorem effect {operation : Operation} {result : Except SessionError (Option IssuedCertificate)}
    {after : World Registry} (ended : (operation.deed authority).Ends before result after) :
    Effect authority before operation result after := by
  obtain ⟨result', after', ended', effect⟩ := exists_effect authority before operation
  obtain ⟨rfl, rfl⟩ := ends_unique ended ended'
  exact effect

end Operation
end
end CertifiedAccess
