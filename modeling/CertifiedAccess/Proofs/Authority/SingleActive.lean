import CertifiedAccess.Key.Ed25519
import CertifiedAccess.Proofs.Authority.Configuration
import CertifiedAccess.Proofs.Authority.Histories
import CertifiedAccess.Proofs.Timeline
import Mathlib.Data.List.Nodup

/-!
One active session. Only the opening of a session is checked against the others; renewal moves the expiry
of a session without a look at them. As long as time does not go back that is enough: what is active after
a renewal was active at that moment, so it is the one session that was.
-/
namespace CertifiedAccess

/-- What is active at a time was active at every earlier time. -/
theorem Session.active_of_le {s : Session} {earlier later : Instant} (upto : earlier ≤ later)
    (active : s.state later = .active) : s.state earlier = .active := by
  rw [Session.state_eq_active_iff] at *
  exact ⟨active.1, fun expired => active.2 (Instant.lt_of_lt_of_le expired upto)⟩

/-- No operation has an earlier time than one before it. -/
def InOrder (log : List Entry) : Prop := (timesOf log).Pairwise fun later earlier => earlier ≤ later

namespace Registry
variable {r : Registry}

/-- Of the sessions of one user and key, one at most is active at a time. -/
def SingleActiveAt (r : Registry) (t : Instant) : Prop :=
  ∀ session ∈ r.sessions.values, ∀ other ∈ r.sessions.values, session.userId = other.userId →
    session.clientKey = other.clientKey → session.state t = .active → other.state t = .active →
    session = other

theorem nodup_sessions (keyed : r.KeyedById) : r.sessions.values.Nodup := by
  refine List.Nodup.of_map Session.id ?_
  have ids : r.sessions.values.map Session.id = r.sessions.entries.map Prod.fst := by
    rw [Table.values, List.map_map]
    refine List.map_congr_left fun entry stands => ?_
    exact keyed entry.1 entry.2 (Table.get?_of_mem_entries stands)
  rw [ids]
  exact r.sessions.nodup

theorem SingleActiveAt.length_le_one {t : Instant} (single : r.SingleActiveAt t)
    (keyed : r.KeyedById) (userId : String) (key : PublicKey) :
    ((r.sessionsOf userId key).filter fun s => s.isActiveAt t).length ≤ 1 := by
  have nodup : ((r.sessionsOf userId key).filter fun s => s.isActiveAt t).Nodup :=
    ((nodup_sessions keyed).filter _).filter _
  have one : ∀ a ∈ (r.sessionsOf userId key).filter fun s => s.isActiveAt t,
      ∀ b ∈ (r.sessionsOf userId key).filter fun s => s.isActiveAt t, a = b := by
    simp only [sessionsOf, Session.isActiveAt, List.mem_filter, Bool.and_eq_true, beq_iff_eq,
      decide_eq_true_eq]
    rintro a ⟨⟨stored, rfl, rfl⟩, active⟩ b ⟨⟨stored', user, key⟩, active'⟩
    exact single a stored b stored' user.symm key.symm active active'
  revert nodup one
  cases (r.sessionsOf userId key).filter fun s => s.isActiveAt t with
  | nil => simp
  | cons a rest =>
    cases rest with
    | nil => simp
    | cons b rest =>
      intro nodup one
      obtain rfl := one a (by simp) b (by simp)
      simp at nodup

/-- A session that is opened joins the others if none of its user and key is active. -/
theorem SingleActiveAt.put_of_none {t : Instant} (single : r.SingleActiveAt t)
    (keyed : r.KeyedById) {session : Session}
    (none_active : ∀ other ∈ r.sessions.values, other.id ≠ session.id →
      other.userId = session.userId → other.clientKey = session.clientKey →
      other.state t ≠ .active) : (r.put session).SingleActiveAt t := by
  intro a stored b stored' user key active active'
  rcases (mem_sessions_put keyed).mp stored with rfl | ⟨there, apart⟩
  · rcases (mem_sessions_put keyed).mp stored' with rfl | ⟨there', apart'⟩
    · rfl
    · exact absurd active' (none_active b there' apart' user.symm key.symm)
  · rcases (mem_sessions_put keyed).mp stored' with rfl | ⟨there', -⟩
    · exact absurd active (none_active a there apart user key)
    · exact single a there b there' user key active active'

end Registry

/-- What the policy allows: no session of this user and key is active. -/
theorem CreationPolicy.singleActive_eq_ok_true_iff {r : Registry} {userId : String} {key : PublicKey}
    {now : Instant} :
    singleActive userId key now r = .ok true ↔
      ∀ session ∈ r.sessions.values, session.userId = userId → session.clientKey = key →
        session.state now ≠ .active := by
  have answers : singleActive userId key now r =
      .ok !(r.sessionsOf userId key).any fun s => s.isActiveAt now := rfl
  rw [answers, Except.ok.injEq, Bool.not_eq_true', List.any_eq_false]
  simp [Registry.sessionsOf, Session.isActiveAt]

section
variable [SignatureScheme]

namespace Operation
variable {authority : Authority Registry} {before after : World Registry} {operation : Operation}
  {result : Except SessionError (Option IssuedCertificate)}

/-- One operation, seen from a time after it: it is enough that one session was active at most at that
time and at the time of the operation. -/
theorem Effect.singleActiveAt (policy : authority.creation = .singleActive) (held : before.Orderly)
    (effect : Effect authority before operation result after) {t : Instant}
    (past : ∀ now, operation.time? = some now → now ≤ t)
    (then_single : ∀ now, operation.time? = some now → before.store.SingleActiveAt now)
    (single : before.store.SingleActiveAt t) : after.store.SingleActiveAt t := by
  cases effect with
  | passed passes =>
    unfold Registry.SingleActiveAt
    rw [passes.frame.1]
    exact single
  | @opened _ account client options now store session asks opens =>
    obtain ⟨-, -, sessions, -⟩ := asks.frame
    have single' : store.SingleActiveAt t := by
      unfold Registry.SingleActiveAt
      rw [sessions]
      exact single
    have allowed := opens.allowed
    rw [policy, CreationPolicy.singleActive_eq_ok_true_iff] at allowed
    refine single'.put_of_none (asks.orderly held).keyed ?_
    obtain ⟨own, brought, -⟩ := opens.frame
    rw [own, brought]
    rintro other stored - user key active
    exact allowed other stored user key (Session.active_of_le (past now asks.inputs.2) active)
  | @renewed _ now session account renewed renews =>
    refine single.put_of_none held.keyed ?_
    obtain ⟨own, same_user, same_key, -⟩ := renews.frame
    rw [own, same_user, same_key]
    intro other stored apart user key active
    -- both were active when the session was renewed
    have active' := Session.active_of_le (past now rfl) active
    have found := Registry.mem_sessions_of_found renews.current
    obtain rfl := then_single now rfl other stored session found user key active' renews.active
    exact apart rfl
  | @ended _ session current =>
    intro a stored b stored' user key active active'
    have ended : ¬ session.invalidated.state t = .active := by
      simp [Session.state_eq_active_iff, Session.invalidated]
    rcases (mem_sessions_ended held.keyed).mp stored with ⟨stored, -⟩ | ⟨-, rfl⟩
    · rcases (mem_sessions_ended held.keyed).mp stored' with ⟨stored', -⟩ | ⟨-, rfl⟩
      · exact single a stored b stored' user key active active'
      · exact absurd active' ended
    · exact absurd active ended

end Operation

namespace Authority
variable {authority : Authority Registry} {log : List Entry} {world : World Registry}

omit [SignatureScheme] in
theorem creation_of_ofSettings {settings : AuthoritySettings} {key : PrivateKey}
    (built : ofSettings settings key = .ok authority)
    (single : settings.singleActiveSession = true) : authority.creation = .singleActive := by
  obtain ⟨-, rfl⟩ := ofSettings_eq_ok_iff.mp built
  exact if_pos single

theorem Run.singleActiveAt (policy : authority.creation = .singleActive)
    (run : authority.Run log world) (order : InOrder log) {t : Instant}
    (past : ∀ now ∈ timesOf log, now ≤ t) : world.store.SingleActiveAt t := by
  -- at the time of an operation, as well as later: this is why `t` is any time after the run
  induction run generalizing t with
  | initial =>
    intro session stored
    contradiction
  | @step log before after entry run ended ih =>
    have effect := Operation.effect ended
    cases timed : entry.operation.time? with
    | none =>
      have same : timesOf (entry :: log) = timesOf log := List.filterMap_cons_none timed
      rw [InOrder, same] at order
      rw [same] at past
      refine effect.singleActiveAt policy run.orderly ?_ ?_ (ih order past)
      · simp [timed]
      · simp [timed]
    | some now =>
      have more : timesOf (entry :: log) = now :: timesOf log := List.filterMap_cons_some timed
      rw [InOrder, more, List.pairwise_cons] at order
      rw [more, List.forall_mem_cons] at past
      refine effect.singleActiveAt policy run.orderly ?_ ?_ (ih order.2 past.2)
      · rw [timed]
        rintro _ ⟨⟩
        exact past.1
      · rw [timed]
        rintro _ ⟨⟩
        exact ih order.2 order.1

/-- An authority that is set up for it lets each key of a user have one active session at most. -/
theorem Run.single_active {settings : AuthoritySettings} {key : PrivateKey}
    (built : ofSettings settings key = .ok authority) (single : settings.singleActiveSession = true)
    (run : authority.Run log world) (order : InOrder log) {t : Instant}
    (past : ∀ now ∈ timesOf log, now ≤ t) (userId : String) (client : PublicKey) :
    ((world.store.sessionsOf userId client).filter fun s => s.isActiveAt t).length ≤ 1 :=
  (run.singleActiveAt (creation_of_ofSettings built single) order past).length_le_one
    run.orderly.keyed userId client

end Authority
end

/-! A user who signs up, renews the session and then signs in again with the same key. -/
namespace SecondSignIn
open Newcomer

def settings : AuthoritySettings := { AuthoritySettings.standard with singleActiveSession := true }

def authority : Authority Registry :=
  { (.standard key : Authority Registry) with
    creation := .singleActive
    sessionWindow := settings.sessionWindow
    transientWindow := settings.transientWindow }

def renewal : Operation := .refresh (certificate authority) (day 59)

def renewed := (renewal.deed authority).run (registered authority).state

/-- The first window is over by then, the renewed one is not. -/
def signIn : Operation := .signIn credentials device.publicKey .transient (day 61)

def refused := (signIn.deed authority).run renewed.state

def allLogged : List Entry :=
  ⟨signIn, refused.result⟩ :: ⟨renewal, renewed.result⟩ :: log authority

theorem single_active_alice :
    InOrder allLogged ∧ (∀ now ∈ timesOf allLogged, now ≤ day 61) ∧
      refused.result = .error .alreadyLoggedIn ∧
      ((refused.state.store.sessionsOf "user-1" device.publicKey).filter fun s =>
        s.isActiveAt (day 61)).length ≤ 1 := by
  have run : authority.Run allLogged refused.state :=
    ((run_log authority).next renewal).next signIn
  have order : InOrder allLogged := by
    unfold InOrder
    decide
  have past : ∀ now ∈ timesOf allLogged, now ≤ day 61 := by decide
  have built : Authority.ofSettings settings key = .ok authority := rfl
  exact ⟨order, past, by decide +kernel, run.single_active built rfl order past _ _⟩

end SecondSignIn
end CertifiedAccess
