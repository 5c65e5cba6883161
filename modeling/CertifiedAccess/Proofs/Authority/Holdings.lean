import CertifiedAccess.Proofs.Authority.CertificateIndex
import CertifiedAccess.Proofs.Authority.Operations

/-!
What a registry holds: its accounts, which stay, its sessions, one for each id, and an index that leads
from digests of certificates to sessions that have them.
-/
namespace CertifiedAccess

namespace Registry
variable {r r' : Registry}

/-- All accounts are still there, with their ids and names. -/
def AccountsStay (r r' : Registry) : Prop :=
  ∀ account ∈ r.accounts.values, ∃ account' ∈ r'.accounts.values,
    account'.id = account.id ∧ account'.username = account.username

theorem accountsStay_of_eq (same : r'.accounts = r.accounts) : r.AccountsStay r' := by
  intro account known
  exact ⟨account, same ▸ known, rfl, rfl⟩

theorem accountsStay_createAccount {credentials : Credentials} {created : Change Registry Account}
    (made : r.createAccount credentials = .ok created) : r.AccountsStay created.state := by
  obtain ⟨free, rfl⟩ := createAccount_eq_ok_iff.mp made
  intro account known
  obtain ⟨name, found⟩ := Table.mem_values_iff.mp known
  refine ⟨account, Table.mem_values_iff.mpr ⟨name, ?_⟩, rfl, rfl⟩
  -- the new name is none of those before
  have other : credentials.username ≠ name := by
    rintro rfl
    rw [Table.contains_eq_isSome, found] at free
    contradiction
  rw [get?_enrolling, if_neg other, found]

theorem accountsStay_modify (username : String) {f : Account → Account} (id : ∀ a, (f a).id = a.id)
    (name : ∀ a, (f a).username = a.username) :
    r.AccountsStay { r with accounts := r.accounts.modify username f } := by
  intro account known
  obtain ⟨key, found⟩ := Table.mem_values_iff.mp known
  by_cases here : username = key
  · subst here
    refine ⟨f account, Table.mem_values_iff.mpr ⟨username, ?_⟩, id account, name account⟩
    rw [Table.get?_modify, if_pos rfl, found, Option.map_some]
  · refine ⟨account, Table.mem_values_iff.mpr ⟨key, ?_⟩, rfl, rfl⟩
    rw [Table.get?_modify, if_neg here, found]

theorem exists_accountById {id : String} (known : ∃ account ∈ r.accounts.values, account.id = id) :
    ∃ account, r.accountById id = some account := by
  obtain ⟨account, stands, rfl⟩ := known
  refine Option.isSome_iff_exists.mp (List.find?_isSome.mpr ⟨account, stands, ?_⟩)
  exact beq_self_eq_true account.id

theorem mem_accounts_of_accountById {id : String} {account : Account}
    (found : r.accountById id = some account) : account ∈ r.accounts.values ∧ account.id = id := by
  obtain ⟨name, stored, own⟩ := stored_of_accountById found
  exact ⟨Table.mem_values_iff.mpr ⟨name, stored⟩, own⟩

theorem mem_sessions_iff (keyed : r.KeyedById) {session : Session} :
    session ∈ r.sessions.values ↔ r.sessions.get? session.id = some session := by
  rw [Table.mem_values_iff]
  constructor
  · rintro ⟨id, found⟩
    rwa [keyed id session found]
  · intro found
    exact ⟨session.id, found⟩

theorem eq_of_mem_sessions (keyed : r.KeyedById) {session other : Session}
    (stored : session ∈ r.sessions.values) (stored' : other ∈ r.sessions.values)
    (same : session.id = other.id) : session = other := by
  rw [mem_sessions_iff keyed] at stored stored'
  rw [same, stored'] at stored
  exact (Option.some.inj stored).symm

theorem sessionByCertificate_of_eq (sessions : r'.sessions = r.sessions) (index : r'.index = r.index)
    (certificate : Bytes) :
    r'.sessionByCertificate certificate = r.sessionByCertificate certificate := by
  unfold sessionByCertificate
  rw [sessions, index]

theorem mem_sessions_of_found {certificate : Bytes} {session : Session}
    (found : r.sessionByCertificate certificate = some session) : session ∈ r.sessions.values := by
  obtain ⟨id, -, stored, -⟩ := sessionByCertificate_eq_some_iff.mp found
  exact Table.mem_values_iff.mpr ⟨id, stored⟩

theorem mem_sessions_put (keyed : r.KeyedById) {session other : Session} :
    other ∈ (r.put session).sessions.values ↔
      other = session ∨ other ∈ r.sessions.values ∧ other.id ≠ session.id := by
  rw [mem_sessions_iff (keyedById_put keyed session), mem_sessions_iff keyed]
  simp only [put, Table.get?_insert]
  by_cases same : session.id = other.id
  · rw [if_pos same, Option.some.injEq]
    constructor
    · rintro rfl
      exact .inl rfl
    · rintro (rfl | ⟨-, apart⟩)
      · rfl
      · exact absurd same.symm apart
  · rw [if_neg same]
    constructor
    · intro stored
      exact .inr ⟨stored, Ne.symm same⟩
    · rintro (rfl | ⟨stored, -⟩)
      · exact absurd rfl same
      · exact stored

theorem mem_sessions_remove (keyed : r.KeyedById) {id : SessionId} {other : Session} :
    other ∈ (r.remove id).sessions.values ↔ other ∈ r.sessions.values ∧ other.id ≠ id := by
  rw [mem_sessions_iff (keyedById_remove keyed id), mem_sessions_iff keyed]
  unfold remove
  cases stored : r.sessions.get? id with
  | none =>
    simp only [iff_self_and]
    rintro found rfl
    rw [stored] at found
    contradiction
  | some old =>
    simp only [Table.get?_erase]
    by_cases same : id = other.id
    · simp [same]
    · simp [same, Ne.symm same]

/-- Every entry of the index leads to a session whose certificate has that digest. -/
def IndexSound (r : Registry) : Prop :=
  ∀ digest id, r.index.get? digest = some id →
    ∃ session, r.sessions.get? id = some session ∧ Sha256.digest session.certificate = digest

/-- Saving a session drops every entry that led to it, and makes one for its certificate. -/
theorem get?_index_put_of_sound (keyed : r.KeyedById) (sound : r.IndexSound) (session : Session)
    (digest : Bytes) :
    (r.put session).index.get? digest =
      if Sha256.digest session.certificate = digest then some session.id
      else if r.index.get? digest = some session.id then none else r.index.get? digest := by
  unfold put
  simp only [Table.get?_insert]
  by_cases here : Sha256.digest session.certificate = digest
  · rw [if_pos here, if_pos here]
  · rw [if_neg here, if_neg here]
    -- what leads to the session is the digest of the certificate that it had
    have leads (led : r.index.get? digest = some session.id) :
        ∃ old, r.sessions.get? session.id = some old ∧ Sha256.digest old.certificate = digest :=
      sound digest session.id led
    cases stored : r.sessions.get? session.id with
    | none =>
      rw [if_neg]
      intro led
      obtain ⟨old, found, -⟩ := leads led
      rw [stored] at found
      contradiction
    | some old =>
      have own := keyed session.id old stored
      have matches_old (led : r.index.get? digest = some session.id) :
          Sha256.digest old.certificate = digest := by
        obtain ⟨found, stored', same⟩ := leads led
        rw [stored] at stored'
        cases stored'
        exact same
      dsimp only
      split
      · rename_i unchanged
        rw [if_neg]
        intro led
        exact here (unchanged.symm.trans (matches_old led))
      · rw [get?_unindex, own]
        by_cases led : r.index.get? digest = some session.id
        · rw [if_pos led, if_pos ⟨matches_old led, led⟩]
        · rw [if_neg led, if_neg fun both => led both.2]

theorem get?_index_remove_of_sound (keyed : r.KeyedById) (sound : r.IndexSound) (id : SessionId)
    (digest : Bytes) :
    (r.remove id).index.get? digest =
      if r.index.get? digest = some id then none else r.index.get? digest := by
  unfold remove
  cases stored : r.sessions.get? id with
  | none =>
    rw [if_neg]
    intro led
    obtain ⟨found, stored', -⟩ := sound digest id led
    rw [stored] at stored'
    contradiction
  | some old =>
    have own := keyed id old stored
    simp only [get?_unindex, own]
    by_cases led : r.index.get? digest = some id
    · obtain ⟨found, stored', same⟩ := sound digest id led
      rw [stored] at stored'
      cases stored'
      rw [if_pos led, if_pos ⟨same, led⟩]
    · rw [if_neg led, if_neg fun both => led both.2]

theorem indexSound_put (keyed : r.KeyedById) (sound : r.IndexSound) (session : Session) :
    (r.put session).IndexSound := by
  intro digest id led
  rw [get?_index_put_of_sound keyed sound] at led
  simp only [put, Table.get?_insert]
  split at led
  · cases led
    exact ⟨session, if_pos rfl, ‹_›⟩
  · split at led
    · contradiction
    · rename_i elsewhere
      obtain ⟨found, stored, same⟩ := sound digest id led
      refine ⟨found, ?_, same⟩
      rw [if_neg, stored]
      rintro rfl
      exact elsewhere led

theorem indexSound_remove (keyed : r.KeyedById) (sound : r.IndexSound) (removed : SessionId) :
    (r.remove removed).IndexSound := by
  intro digest id led
  rw [get?_index_remove_of_sound keyed sound] at led
  split at led
  · contradiction
  · rename_i elsewhere
    obtain ⟨found, stored, same⟩ := sound digest id led
    have kept : id ≠ removed := by
      rintro rfl
      exact elsewhere led
    refine ⟨found, ?_, same⟩
    unfold remove
    split
    · rw [Table.get?_erase, if_neg (Ne.symm kept), stored]
    · exact stored

end Registry
end CertifiedAccess
