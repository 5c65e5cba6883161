import CertifiedAccess.Proofs.Authority.Effects
import CertifiedAccess.Proofs.Authority.Holdings

/-!
Runs with their history: what was done, how each operation ended, and the world that all of it led to. In
every such world sessions stand under ids that were drawn, belong to accounts that exist, and carry
certificates that were issued in the run; and what the index of certificates says of them is true.
-/
namespace CertifiedAccess
open CertifiedAccess.Action

/-- One operation of a run, and how it ended. -/
structure Entry where
  operation : Operation
  result : Except SessionError (Option IssuedCertificate)

/-- The certificate that an operation returned, if it did. -/
def Entry.issued? (entry : Entry) : Option IssuedCertificate :=
  match entry.result with
  | .ok issued => issued
  | .error _ => none

theorem Entry.issued?_eq_some_iff {entry : Entry} {issued : IssuedCertificate} :
    entry.issued? = some issued ↔ entry.result = .ok (some issued) := by
  unfold issued?
  cases entry.result with
  | ok returned => simp
  | error e => simp

/-- In this form nothing has to be computed to know the result of a sample entry. -/
theorem Entry.result_of_mem_issued? {operation : Operation}
    {result : Except SessionError (Option IssuedCertificate)} {issued : IssuedCertificate}
    (mem : issued ∈ (Entry.mk operation result).issued?.toList) : result = .ok (some issued) :=
  issued?_eq_some_iff.mp (Option.mem_toList.mp mem)

/-- The octets of all certificates that were returned. -/
def certificatesOf (log : List Entry) : List Bytes :=
  (log.filterMap Entry.issued?).map (·.bytes)

theorem certificatesOf_subset_cons (log : List Entry) (entry : Entry) :
    certificatesOf log ⊆ certificatesOf (entry :: log) := by
  intro bytes mem
  obtain ⟨issued, returned, rfl⟩ := List.mem_map.mp mem
  obtain ⟨source, there, found⟩ := List.mem_filterMap.mp returned
  exact List.mem_map_of_mem (List.mem_filterMap.mpr ⟨source, List.mem_cons_of_mem _ there, found⟩)

theorem mem_certificatesOf_cons {log : List Entry} {entry : Entry} {issued : IssuedCertificate}
    (issues : entry.result = .ok (some issued)) : issued.bytes ∈ certificatesOf (entry :: log) := by
  refine List.mem_map_of_mem (List.mem_filterMap.mpr ⟨entry, List.mem_cons_self, ?_⟩)
  exact Entry.issued?_eq_some_iff.mpr issues

namespace Operation

/-- When an operation is done; signing out and changing accounts are not timed. -/
def time? : Operation → Option Instant
  | .signUp _ _ now | .signIn _ _ _ now | .refresh _ now => some now
  | .signOut _ | .setRoles _ _ | .setEnabled _ _ => none

/-- The key that an operation brings in. -/
def client? : Operation → Option PublicKey
  | .signUp _ client _ | .signIn _ client _ _ => some client
  | .refresh _ _ | .signOut _ | .setRoles _ _ | .setEnabled _ _ => none

theorem Asks.inputs {operation : Operation} {r store : Registry} {account : Account}
    {client : PublicKey} {options : SignInOptions} {now : Instant}
    (asks : Asks r operation account client options now store) :
    operation.client? = some client ∧ operation.time? = some now := by
  cases asks with
  | signUp made => exact ⟨rfl, rfl⟩
  | signIn known => exact ⟨rfl, rfl⟩

end Operation

/-- The times that were used, the latest operation first. -/
def timesOf (log : List Entry) : List Instant := log.filterMap fun entry => entry.operation.time?

/-- The keys that were brought in. -/
def clientsOf (log : List Entry) : List PublicKey :=
  log.filterMap fun entry => entry.operation.client?

section
variable [SignatureScheme]

/-- The runs of an authority over an empty registry: what was done so far, the latest first, and the world
that it led to. An operation that fails is part of the run, with what it left. -/
inductive Authority.Run (authority : Authority Registry) : List Entry → World Registry → Prop where
  | initial : Run authority [] ⟨.empty, 0⟩
  | step {log : List Entry} {before after : World Registry} {entry : Entry}
    (run : Run authority log before)
    (ended : (entry.operation.deed authority).Ends before entry.result after) :
    Run authority (entry :: log) after

namespace Operation
variable {authority : Authority Registry} {before after : World Registry} {operation : Operation}
  {result : Except SessionError (Option IssuedCertificate)}

omit [SignatureScheme] in
theorem Asks.frame {r store : Registry} {account : Account} {client : PublicKey}
    {options : SignInOptions} {now : Instant}
    (asks : Asks r operation account client options now store) :
    r.AccountsStay store ∧ account ∈ store.accounts.values ∧ store.sessions = r.sessions ∧
      store.index = r.index := by
  cases asks with
  | signUp made =>
    refine ⟨Registry.accountsStay_createAccount made, ?_⟩
    obtain ⟨-, rfl⟩ := Registry.createAccount_eq_ok_iff.mp made
    exact ⟨Table.mem_values_iff.mpr ⟨_, Table.get?_insert_self _ _ _⟩, rfl, rfl⟩
  | signIn known =>
    have stored := Registry.get?_of_accountByCredentials known
    exact ⟨Registry.accountsStay_of_eq rfl, Table.mem_values_iff.mpr ⟨_, stored⟩, rfl, rfl⟩

theorem Passes.frame (passes : Passes authority before operation result after) :
    after.store.sessions = before.store.sessions ∧ after.store.index = before.store.index ∧
      after.drawn = before.drawn := by
  cases passes with
  | taken known => exact ⟨rfl, rfl, rfl⟩
  | unknown nobody => exact ⟨rfl, rfl, rfl⟩
  | refused asks refuses =>
    obtain ⟨-, -, sessions, index⟩ := asks.frame
    exact ⟨sessions, index, rfl⟩
  | declined declines => exact ⟨rfl, rfl, rfl⟩
  | absent none_there => exact ⟨rfl, rfl, rfl⟩
  | assigned assigns => exact ⟨rfl, rfl, rfl⟩

theorem Passes.issues_nothing {issued : IssuedCertificate}
    (passes : Passes authority before operation result after) : result ≠ .ok (some issued) := by
  cases passes with
  | taken known => simp
  | unknown nobody => simp
  | refused asks refuses => simp
  | declined declines => simp
  | absent none_there => simp
  | assigned assigns => simp

omit [SignatureScheme] in
theorem accounts_ended (authority : Authority Registry) (session : Session) (r : Registry) :
    (authority.ended session r).accounts = r.accounts ∧
      (authority.ended session r).registered = r.registered := by
  unfold Authority.ended
  split
  · exact ⟨rfl, rfl⟩
  · exact Registry.accounts_remove session.id r

/-- No operation takes an account away or gives it another id or name. -/
theorem Effect.accountsStay (effect : Effect authority before operation result after) :
    before.store.AccountsStay after.store := by
  cases effect with
  | passed passes =>
    cases passes with
    | taken known => exact Registry.accountsStay_of_eq rfl
    | unknown nobody => exact Registry.accountsStay_of_eq rfl
    | refused asks refuses => exact asks.frame.1
    | declined declines => exact Registry.accountsStay_of_eq rfl
    | absent none_there => exact Registry.accountsStay_of_eq rfl
    | assigned assigns =>
      cases assigns with
      | setRoles => exact Registry.accountsStay_modify _ (fun _ => rfl) fun _ => rfl
      | setEnabled => exact Registry.accountsStay_modify _ (fun _ => rfl) fun _ => rfl
  | opened asks opens => exact asks.frame.1
  | renewed renews => exact Registry.accountsStay_of_eq rfl
  | ended current => exact Registry.accountsStay_of_eq (accounts_ended authority _ _).1

end Operation

omit [SignatureScheme] in
theorem mem_sessions_ended {authority : Authority Registry} {r : Registry} (keyed : r.KeyedById)
    {session other : Session} :
    other ∈ (authority.ended session r).sessions.values ↔
      other ∈ r.sessions.values ∧ other.id ≠ session.id ∨
        authority.retainSignedOut = true ∧ other = session.invalidated := by
  unfold Authority.ended
  cases authority.retainSignedOut with
  | true =>
    rw [if_pos rfl, Registry.mem_sessions_put keyed, or_comm]
    simp [Session.invalidated]
  | false =>
    rw [if_neg (by decide), Registry.mem_sessions_remove keyed]
    simp

/-- What holds of the sessions of every world that a run leads to. -/
structure World.Orderly (world : World Registry) : Prop where
  keyed : world.store.KeyedById
  fresh : ∀ session ∈ world.store.sessions.values, session.id.number < world.drawn
  owned : ∀ session ∈ world.store.sessions.values,
    ∃ account ∈ world.store.accounts.values, account.id = session.userId
  sound : world.store.IndexSound

namespace World.Orderly
variable {world after : World Registry}

omit [SignatureScheme] in
theorem initial : World.Orderly ⟨.empty, 0⟩ := by
  constructor
  · intro id session stored
    contradiction
  · intro session stored
    contradiction
  · intro session stored
    contradiction
  · intro digest id led
    contradiction

omit [SignatureScheme] in
theorem of_frame (held : world.Orderly) (sessions : after.store.sessions = world.store.sessions)
    (index : after.store.index = world.store.index) (drawn : after.drawn = world.drawn)
    (accounts : world.store.AccountsStay after.store) : after.Orderly := by
  refine ⟨?_, ?_, ?_, ?_⟩
  · unfold Registry.KeyedById
    rw [sessions]
    exact held.keyed
  · rw [sessions, drawn]
    exact held.fresh
  · rw [sessions]
    intro session stored
    obtain ⟨account, known, own⟩ := held.owned session stored
    obtain ⟨account', known', same, -⟩ := accounts account known
    exact ⟨account', known', same.trans own⟩
  · unfold Registry.IndexSound
    rw [sessions, index]
    exact held.sound

omit [SignatureScheme] in
theorem put (held : world.Orderly) {session : Session} {drawn : Nat} (grown : world.drawn ≤ drawn)
    (fresh : session.id.number < drawn)
    (owned : ∃ account ∈ world.store.accounts.values, account.id = session.userId) :
    World.Orderly ⟨world.store.put session, drawn⟩ := by
  refine ⟨Registry.keyedById_put held.keyed session, ?_, ?_,
    Registry.indexSound_put held.keyed held.sound session⟩
  · intro other stored
    rcases (Registry.mem_sessions_put held.keyed).mp stored with rfl | ⟨stored, -⟩
    · exact fresh
    · exact Nat.lt_of_lt_of_le (held.fresh other stored) grown
  · intro other stored
    rcases (Registry.mem_sessions_put held.keyed).mp stored with rfl | ⟨stored, -⟩
    · exact owned
    · exact held.owned other stored

omit [SignatureScheme] in
theorem remove (held : world.Orderly) (id : SessionId) :
    World.Orderly ⟨world.store.remove id, world.drawn⟩ := by
  refine ⟨Registry.keyedById_remove held.keyed id, ?_, ?_,
    Registry.indexSound_remove held.keyed held.sound id⟩
  · intro other stored
    exact held.fresh other ((Registry.mem_sessions_remove held.keyed).mp stored).1
  · intro other stored
    rw [(Registry.accounts_remove id world.store).1]
    exact held.owned other ((Registry.mem_sessions_remove held.keyed).mp stored).1

end World.Orderly

namespace Operation
variable {authority : Authority Registry} {before after : World Registry} {operation : Operation}
  {result : Except SessionError (Option IssuedCertificate)}

omit [SignatureScheme] in
/-- Asking for a session leaves the world in order, also when it makes an account. -/
theorem Asks.orderly {account : Account} {client : PublicKey} {options : SignInOptions}
    {now : Instant} {store : Registry} (held : before.Orderly)
    (asks : Asks before.store operation account client options now store) :
    World.Orderly ⟨store, before.drawn⟩ := by
  obtain ⟨accounts, -, sessions, index⟩ := asks.frame
  exact held.of_frame sessions index rfl accounts

/-- The id of a new session was never used. -/
theorem Asks.unused {account : Account} {client : PublicKey} {options : SignInOptions}
    {now : Instant} {store : Registry} {session other : Session} (held : before.Orderly)
    (asks : Asks before.store operation account client options now store)
    (opens : authority.Opens ⟨store, before.drawn⟩ account client options now session)
    (stored : other ∈ store.sessions.values) : session.id ≠ other.id := by
  intro taken
  have drawn := (asks.orderly held).fresh other stored
  rw [← taken, opens.made] at drawn
  exact Nat.lt_irrefl _ drawn

theorem Effect.orderly (held : before.Orderly)
    (effect : Effect authority before operation result after) : after.Orderly := by
  cases effect with
  | passed passes =>
    obtain ⟨sessions, index, drawn⟩ := passes.frame
    exact held.of_frame sessions index drawn (Effect.passed passes).accountsStay
  | @opened _ account _ _ _ store session asks opens =>
    obtain ⟨-, known, -, -⟩ := asks.frame
    refine (asks.orderly held).put (Nat.le_succ _) ?_ ⟨account, known, opens.frame.1.symm⟩
    rw [opens.made]
    exact Nat.lt_succ_self _
  | @renewed _ _ session account _ renews =>
    have stored := Registry.mem_sessions_of_found renews.current
    obtain ⟨id, user, -, -⟩ := renews.frame
    refine held.put (Nat.le_refl _) ?_ ?_
    · rw [id]
      exact held.fresh session stored
    · rw [user]
      exact held.owned session stored
  | @ended _ session current =>
    have stored := Registry.mem_sessions_of_found current
    unfold Authority.ended
    split
    · exact held.put (Nat.le_refl _) (held.fresh session stored) (held.owned session stored)
    · exact held.remove session.id

/-- A session is there from before, maybe signed out since, or its certificate is the one just issued. -/
theorem Effect.origin (held : before.Orderly)
    (effect : Effect authority before operation result after) {session : Session}
    (stored : session ∈ after.store.sessions.values) :
    (∃ old ∈ before.store.sessions.values, session = old ∨ session = old.invalidated) ∨
      result = .ok (some (Authority.issuedFor session)) := by
  cases effect with
  | passed passes =>
    rw [passes.frame.1] at stored
    exact .inl ⟨session, stored, .inl rfl⟩
  | opened asks opens =>
    obtain ⟨-, -, sessions, -⟩ := asks.frame
    rcases (Registry.mem_sessions_put (asks.orderly held).keyed).mp stored with rfl | ⟨stored, -⟩
    · exact .inr rfl
    · exact .inl ⟨session, sessions ▸ stored, .inl rfl⟩
  | renewed renews =>
    rcases (Registry.mem_sessions_put held.keyed).mp stored with rfl | ⟨stored, -⟩
    · exact .inr rfl
    · exact .inl ⟨session, stored, .inl rfl⟩
  | ended current =>
    rcases (mem_sessions_ended held.keyed).mp stored with ⟨stored, -⟩ | ⟨-, rfl⟩
    · exact .inl ⟨session, stored, .inl rfl⟩
    · exact .inl ⟨_, Registry.mem_sessions_of_found current, .inr rfl⟩

end Operation

namespace Authority.Run
variable {authority : Authority Registry} {log : List Entry} {world : World Registry}

/-- What every effect respects holds of every world that a run leads to. -/
theorem invariant {P : World Registry → Prop} (initial : P ⟨.empty, 0⟩)
    (step : ∀ {before operation result after}, P before →
      Operation.Effect authority before operation result after → P after)
    (run : authority.Run log world) : P world := by
  induction run with
  | initial => exact initial
  | step run ended ih => exact step ih (Operation.effect ended)

theorem orderly (run : authority.Run log world) : world.Orderly :=
  run.invariant World.Orderly.initial Operation.Effect.orderly

/-- Accounts stand under their own names, and no two share an id. -/
theorem accountsNumbered (run : authority.Run log world) : world.store.AccountsNumbered := by
  induction run with
  | initial => exact Registry.accountsNumbered_empty
  | @step _ before _ entry run ended ih =>
    obtain ⟨-, rfl⟩ := ended
    exact entry.operation.keeps_accountsNumbered authority before ih

theorem unique {world' : World Registry} (run : authority.Run log world)
    (run' : authority.Run log world') : world = world' := by
  induction run generalizing world' with
  | initial =>
    cases run' with
    | initial => rfl
  | step run ended ih =>
    cases run' with
    | step run' ended' =>
      obtain rfl := ih run'
      exact (ends_unique ended ended').2

/-- A run goes on with any operation. -/
theorem next (run : authority.Run log world) (operation : Operation) :
    authority.Run (⟨operation, ((operation.deed authority).run world).result⟩ :: log)
      ((operation.deed authority).run world).state :=
  .step run ⟨rfl, rfl⟩

/-- Only certificates that were issued are kept. -/
theorem certificate_mem (run : authority.Run log world) {session : Session}
    (stored : session ∈ world.store.sessions.values) : session.certificate ∈ certificatesOf log := by
  induction run generalizing session with
  | initial => contradiction
  | @step log before after entry run ended ih =>
    have earlier (old : Session) (there : old ∈ before.store.sessions.values) :=
      certificatesOf_subset_cons log entry (ih there)
    rcases (Operation.effect ended).origin run.orderly stored with
      ⟨old, there, rfl | rfl⟩ | issues
    · exact earlier _ there
    · exact earlier old there
    · exact mem_certificatesOf_cons issues

/-- What an operation finds kept and what it issues are among the certificates up to then. -/
theorem certificates_cover (run : authority.Run log world) (entry : Entry) :
    (∀ session ∈ world.store.sessions.values,
      session.certificate ∈ certificatesOf (entry :: log)) ∧
    ∀ issued, entry.result = .ok (some issued) → issued.bytes ∈ certificatesOf (entry :: log) :=
  ⟨fun _ stored => certificatesOf_subset_cons log entry (run.certificate_mem stored),
    fun _ issues => mem_certificatesOf_cons issues⟩

end Authority.Run

/-! How sample runs begin: a user signs up. -/
namespace Newcomer

/-- A signing key of one octet, over and over. -/
def seeded (octet : UInt8) : PrivateKey := ⟨List.replicate 32 octet, List.length_replicate⟩

def device : PrivateKey := seeded 4

/-- The key of the authority. -/
def key : PrivateKey := seeded 3

def credentials : Credentials := ⟨"alice", "secret"⟩

/-- One proof for the numerals of all days. -/
instance neZero_days : NeZero 1000 := ⟨by decide⟩

omit [SignatureScheme] in
theorem wholeSecond_lt : 0 < 2000000000 := by decide

/-- This many days after the sign-up. -/
def day (number : Fin 1000) : Instant where
  seconds := 1700000000 + number * 86400
  nanos := 0
  first_le := by
    unfold Instant.firstSecond
    omega
  le_last := by
    unfold Instant.lastSecond
    omega
  nanos_lt := wholeSecond_lt
  leap := by simp

def signUp : Operation := .signUp credentials device.publicKey (day 0)

variable (authority : Authority Registry)

def registered := (signUp.deed authority).run ⟨.empty, 0⟩

def log : List Entry := [⟨signUp, (registered authority).result⟩]

/-- The certificate that the sign-up returned. -/
def certificate : Bytes := (certificatesOf (log authority)).headD []

theorem run_log : authority.Run (log authority) (registered authority).state :=
  Authority.Run.initial.next signUp

end Newcomer
end
end CertifiedAccess
