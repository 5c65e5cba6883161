import CertifiedAccess.Key.Ed25519
import CertifiedAccess.Proofs.Authority.Histories
import Mathlib.Data.List.Nodup
import Mathlib.Data.List.Perm.Subperm

/-!
Whether the index leads to all sessions. It never has more entries than there are sessions, and as many
exactly when every session is found by its certificate. Certificates do not name their session, so two
sessions of one user and key that are opened within a millisecond can have the same octets: the index
then leads to the later one, and the earlier one is out of reach for good. Nothing else loses a session.
-/
namespace CertifiedAccess

/-- No two of these octet strings have the same digest. -/
def DigestsApart (certificates : List Bytes) : Prop :=
  ∀ a ∈ certificates, ∀ b ∈ certificates, Sha256.digest a = Sha256.digest b → a = b

namespace Registry
variable {r r' : Registry}

/-- Every session is the one that its certificate leads to. -/
def FindsAll (r : Registry) : Prop :=
  ∀ session ∈ r.sessions.values, r.sessionByCertificate session.certificate = some session

theorem findsAll_of_eq (sessions : r'.sessions = r.sessions) (index : r'.index = r.index) :
    r'.FindsAll ↔ r.FindsAll := by
  unfold FindsAll
  rw [sessions]
  simp only [sessionByCertificate_of_eq sessions index]

theorem FindsAll.unique (all : r.FindsAll) {session other : Session}
    (stored : session ∈ r.sessions.values) (stored' : other ∈ r.sessions.values)
    (same : session.certificate = other.certificate) : session = other := by
  have found := all session stored
  rw [same, all other stored'] at found
  exact (Option.some.inj found).symm

/-- After a session was saved, the others are found if they were before and have other certificates. -/
theorem findsAll_put_iff (keyed : r.KeyedById) (session : Session)
    (distinct : ∀ other ∈ r.sessions.values,
      Sha256.digest session.certificate = Sha256.digest other.certificate →
      session.certificate = other.certificate)
    (own : ∀ old ∈ r.sessions.values, old.id = session.id →
      r.sessionByCertificate old.certificate = some old) :
    (r.put session).FindsAll ↔ r.FindsAll ∧
      ∀ other ∈ r.sessions.values, other.id ≠ session.id →
        other.certificate ≠ session.certificate := by
  have found_put {other : Session} (stored : other ∈ r.sessions.values)
      (apart : other.id ≠ session.id) :
      (r.put session).sessionByCertificate other.certificate = some other ↔
        r.sessionByCertificate other.certificate = some other ∧
          other.certificate ≠ session.certificate := by
    rw [sessionByCertificate_put keyed (distinct other stored)]
    constructor
    · rintro (⟨rfl, -⟩ | ⟨found, other_octets, -⟩)
      · exact absurd rfl apart
      · exact ⟨found, Ne.symm other_octets⟩
    · rintro ⟨found, other_octets⟩
      exact .inr ⟨found, Ne.symm other_octets, fun both => apart both.1.symm⟩
  constructor
  · intro all
    have others (other : Session) (stored : other ∈ r.sessions.values)
        (apart : other.id ≠ session.id) :=
      (found_put stored apart).mp
        (all other ((mem_sessions_put keyed).mpr (.inr ⟨stored, apart⟩)))
    refine ⟨fun other stored => ?_, fun other stored apart => (others other stored apart).2⟩
    by_cases same : other.id = session.id
    · exact own other stored same
    · exact (others other stored same).1
  · rintro ⟨all, others⟩ other stored
    rcases (mem_sessions_put keyed).mp stored with rfl | ⟨stored, apart⟩
    · exact sessionByCertificate_put_self r other
    · exact (found_put stored apart).mpr ⟨all other stored, others other stored apart⟩

theorem findsAll_remove_iff (keyed : r.KeyedById) {session : Session}
    (found : r.sessionByCertificate session.certificate = some session) :
    (r.remove session.id).FindsAll ↔ r.FindsAll := by
  have own := (mem_sessions_iff keyed).mp (mem_sessions_of_found found)
  constructor
  · intro all other stored
    by_cases same : other.id = session.id
    · obtain rfl := eq_of_mem_sessions keyed stored (mem_sessions_of_found found) same
      exact found
    · have kept := all other ((mem_sessions_remove keyed).mpr ⟨stored, same⟩)
      exact ((sessionByCertificate_remove_iff keyed).mp kept).1
  · intro all other stored
    obtain ⟨stored, apart⟩ := (mem_sessions_remove keyed).mp stored
    exact (sessionByCertificate_remove_iff keyed).mpr ⟨all other stored, Ne.symm apart⟩

/-- Entries of a sound index are told apart by the sessions that they lead to. -/
theorem nodup_index_values (sound : r.IndexSound) : r.index.values.Nodup := by
  refine (List.Nodup.of_map Prod.fst r.index.nodup).map_on ?_
  rintro ⟨digest, id⟩ stands ⟨digest', id'⟩ stands' same
  obtain ⟨session, stored, own⟩ := sound digest id (Table.get?_of_mem_entries stands)
  obtain ⟨session', stored', own'⟩ := sound digest' id' (Table.get?_of_mem_entries stands')
  cases same
  rw [stored] at stored'
  cases stored'
  rw [← own, ← own']

theorem index_values_subset (sound : r.IndexSound) :
    r.index.values ⊆ r.sessions.entries.map Prod.fst := by
  intro id led
  obtain ⟨digest, found⟩ := Table.mem_values_iff.mp led
  obtain ⟨session, stored, -⟩ := sound digest id found
  exact Table.mem_keys_iff.mpr ⟨session, stored⟩

theorem mem_index_values_iff (keyed : r.KeyedById) (sound : r.IndexSound) {session : Session}
    (stored : session ∈ r.sessions.values) :
    session.id ∈ r.index.values ↔ r.sessionByCertificate session.certificate = some session := by
  rw [mem_sessions_iff keyed] at stored
  rw [Table.mem_values_iff, sessionByCertificate_eq_some_iff]
  constructor
  · rintro ⟨digest, led⟩
    obtain ⟨found, stored', rfl⟩ := sound digest session.id led
    rw [stored] at stored'
    cases stored'
    exact ⟨session.id, led, stored, rfl⟩
  · rintro ⟨id, led, stored', -⟩
    exact ⟨_, keyed id session stored' ▸ led⟩

theorem length_index_values (r : Registry) : r.index.values.length = r.indexSize := List.length_map _

theorem length_session_ids (r : Registry) :
    (r.sessions.entries.map Prod.fst).length = r.sessionCount := List.length_map _

theorem indexSize_le_sessionCount (sound : r.IndexSound) : r.indexSize ≤ r.sessionCount := by
  rw [← length_index_values, ← length_session_ids]
  exact (List.subperm_of_subset (nodup_index_values sound) (index_values_subset sound)).length_le

/-- As many entries as sessions: all sessions have theirs. -/
theorem indexSize_eq_sessionCount_iff (keyed : r.KeyedById) (sound : r.IndexSound) :
    r.indexSize = r.sessionCount ↔ r.FindsAll := by
  have below := List.subperm_of_subset (nodup_index_values sound) (index_values_subset sound)
  constructor
  · intro same session stored
    have enough : (r.sessions.entries.map Prod.fst).length ≤ r.index.values.length := by
      rw [length_index_values, length_session_ids]
      exact Nat.le_of_eq same.symm
    have all := below.perm_of_length_le enough
    refine (mem_index_values_iff keyed sound stored).mp (all.mem_iff.mpr ?_)
    exact Table.mem_keys_iff.mpr ⟨session, (mem_sessions_iff keyed).mp stored⟩
  · intro all
    have above : r.sessions.entries.map Prod.fst ⊆ r.index.values := by
      intro id stands
      obtain ⟨session, stored⟩ := Table.mem_keys_iff.mp stands
      have kept := Table.mem_values_iff.mpr ⟨id, stored⟩
      have led := (mem_index_values_iff keyed sound kept).mpr (all session kept)
      exact keyed id session stored ▸ led
    have counted := (List.subperm_of_subset r.sessions.nodup above).length_le
    rw [length_index_values, length_session_ids] at counted
    exact Nat.le_antisymm (indexSize_le_sessionCount sound) counted

end Registry

/-- What was issued has the octets of a certificate that another session has. -/
def Entry.Duplicates (entry : Entry) (before : Registry) : Prop :=
  ∃ issued, entry.result = .ok (some issued) ∧ ∃ other ∈ before.sessions.values,
    other.id ≠ issued.sessionId ∧ other.certificate = issued.bytes

namespace Entry
variable {operation : Operation} {before : Registry}

theorem not_duplicates_iff {issued : IssuedCertificate} :
    ¬ Duplicates ⟨operation, .ok (some issued)⟩ before ↔
      ∀ other ∈ before.sessions.values, other.id ≠ issued.sessionId →
        other.certificate ≠ issued.bytes := by
  constructor
  · intro single other stored apart same
    exact single ⟨issued, rfl, other, stored, apart, same⟩
  · rintro others ⟨_, ⟨⟩, other, stored, apart, same⟩
    exact others other stored apart same

theorem not_duplicates_of_issues_nothing {result : Except SessionError (Option IssuedCertificate)}
    (nothing : ∀ issued, result ≠ .ok (some issued)) : ¬ Duplicates ⟨operation, result⟩ before := by
  rintro ⟨issued, issues, -⟩
  exact nothing issued issues

end Entry

section
variable [SignatureScheme]

namespace Operation
variable {authority : Authority Registry} {before after : World Registry} {operation : Operation}
  {result : Except SessionError (Option IssuedCertificate)}

omit [SignatureScheme] in
theorem findsAll_ended_iff (keyed : before.store.KeyedById) {certificate : Bytes} {session : Session}
    (current : before.store.sessionByCertificate certificate = some session)
    (distinct : ∀ other ∈ before.store.sessions.values,
      Sha256.digest session.certificate = Sha256.digest other.certificate →
      session.certificate = other.certificate) :
    (authority.ended session before.store).FindsAll ↔ before.store.FindsAll := by
  have found := current
  rw [← Registry.certificate_of_found current] at found
  have stored := Registry.mem_sessions_of_found found
  unfold Authority.ended
  split
  · have own (old : Session) (stored' : old ∈ before.store.sessions.values)
        (same : old.id = session.id) :
        before.store.sessionByCertificate old.certificate = some old := by
      rwa [Registry.eq_of_mem_sessions keyed stored' stored same]
    refine (Registry.findsAll_put_iff keyed session.invalidated distinct own).trans (and_iff_left_of_imp ?_)
    intro all other stored' apart same
    obtain rfl := all.unique stored' stored same
    exact apart rfl
  · exact Registry.findsAll_remove_iff keyed found

/-- The one thing that takes a session out of reach is that another one gets the same octets. -/
theorem Effect.findsAll_iff (held : before.Orderly)
    (effect : Effect authority before operation result after) {certificates : List Bytes}
    (apart : DigestsApart certificates)
    (kept : ∀ session ∈ before.store.sessions.values, session.certificate ∈ certificates)
    (issues : ∀ issued, result = .ok (some issued) → issued.bytes ∈ certificates) :
    after.store.FindsAll ↔
      before.store.FindsAll ∧ ¬ Entry.Duplicates ⟨operation, result⟩ before.store := by
  cases effect with
  | passed passes =>
    obtain ⟨sessions, index, -⟩ := passes.frame
    rw [Registry.findsAll_of_eq sessions index]
    refine (and_iff_left (Entry.not_duplicates_of_issues_nothing ?_)).symm
    intro issued
    exact passes.issues_nothing
  | @opened _ account _ _ _ store session asks opens =>
    obtain ⟨-, -, sessions, index⟩ := asks.frame
    have own (old : Session) (stored : old ∈ store.sessions.values) (same : old.id = session.id) :
        store.sessionByCertificate old.certificate = some old :=
      absurd same.symm (asks.unused held opens stored)
    rw [Registry.findsAll_put_iff (asks.orderly held).keyed session ?_ own,
      Registry.findsAll_of_eq sessions index, Entry.not_duplicates_iff, sessions]
    · rfl
    · intro other stored
      rw [sessions] at stored
      exact apart _ (issues _ rfl) _ (kept other stored)
  | @renewed _ _ session account renewed renews =>
    have found := renews.current
    rw [← Registry.certificate_of_found renews.current] at found
    have own (old : Session) (stored : old ∈ before.store.sessions.values)
        (same : old.id = renewed.id) :
        before.store.sessionByCertificate old.certificate = some old := by
      rw [renews.frame.1] at same
      rwa [Registry.eq_of_mem_sessions held.keyed stored (Registry.mem_sessions_of_found found) same]
    rw [Registry.findsAll_put_iff held.keyed renewed ?_ own, Entry.not_duplicates_iff]
    · rfl
    · intro other stored
      exact apart _ (issues _ rfl) _ (kept other stored)
  | @ended _ session current =>
    have stored := Registry.mem_sessions_of_found current
    rw [findsAll_ended_iff held.keyed current fun other stored' =>
      apart _ (kept session stored) _ (kept other stored')]
    refine (and_iff_left (Entry.not_duplicates_of_issues_nothing ?_)).symm
    intro issued
    simp

end Operation

/-- At some point of the run an operation issued what another session had then. -/
inductive Authority.Duplicated (authority : Authority Registry) : List Entry → Prop where
  | now {log : List Entry} {before : World Registry} {entry : Entry} (run : authority.Run log before)
    (duplicates : entry.Duplicates before.store) : Duplicated authority (entry :: log)
  | earlier {log : List Entry} {entry : Entry} (duplicated : Duplicated authority log) :
    Duplicated authority (entry :: log)

namespace Authority
variable {authority : Authority Registry} {log : List Entry} {world before : World Registry}

theorem duplicated_cons_iff {entry : Entry} (run : authority.Run log before) :
    authority.Duplicated (entry :: log) ↔
      authority.Duplicated log ∨ entry.Duplicates before.store := by
  constructor
  · intro duplicated
    cases duplicated with
    | now run' duplicates => exact .inr (run.unique run' ▸ duplicates)
    | earlier duplicated => exact .inl duplicated
  · rintro (duplicated | duplicates)
    · exact .earlier duplicated
    · exact .now run duplicates

theorem Run.findsAll_iff (run : authority.Run log world) (apart : DigestsApart (certificatesOf log)) :
    world.store.FindsAll ↔ ¬ authority.Duplicated log := by
  induction run with
  | initial =>
    refine iff_of_true ?_ (by rintro ⟨⟩)
    intro session stored
    contradiction
  | @step log before after entry run ended ih =>
    have earlier : DigestsApart (certificatesOf log) := fun a mem b mem' =>
      apart a (certificatesOf_subset_cons log entry mem) b (certificatesOf_subset_cons log entry mem')
    obtain ⟨kept, issues⟩ := run.certificates_cover entry
    rw [(Operation.effect ended).findsAll_iff run.orderly apart kept issues, ih earlier,
      duplicated_cons_iff run, not_or]

/-- Every session is found by its certificate, and the index counts them all, until one session gets the
octets that another one has; from then on neither is so. -/
theorem Run.index_covers_iff (run : authority.Run log world)
    (apart : DigestsApart (certificatesOf log)) :
    ((∀ session ∈ world.store.sessions.values,
      world.store.sessionByCertificate session.certificate = some session) ↔
        ¬ authority.Duplicated log) ∧
    (world.store.indexSize = world.store.sessionCount ↔ ¬ authority.Duplicated log) ∧
    world.store.indexSize ≤ world.store.sessionCount := by
  have found := run.findsAll_iff apart
  have counted := Registry.indexSize_eq_sessionCount_iff run.orderly.keyed run.orderly.sound
  exact ⟨found, counted.trans found, Registry.indexSize_le_sessionCount run.orderly.sound⟩

end Authority
end

/-! A user signs up and signs in again with the same key, in one millisecond or on the next day. -/
namespace SameMillisecond
open Newcomer

def authority : Authority Registry := .standard key

def signIn : Operation := .signIn credentials device.publicKey .persistent (day 0)

def again := (signIn.deed authority).run (registered authority).state

def bothLogged : List Entry := ⟨signIn, again.result⟩ :: log authority

def nextDay : Operation := .signIn credentials device.publicKey .persistent (day 1)

def later := (nextDay.deed authority).run (registered authority).state

def laterLogged : List Entry := ⟨nextDay, later.result⟩ :: log authority

/-- On the next day the octets are others, and both sessions are found. -/
theorem index_covers_both :
    authority.Run laterLogged later.state ∧ DigestsApart (certificatesOf laterLogged) ∧
      later.state.store.sessionCount = 2 ∧
      later.state.store.indexSize = later.state.store.sessionCount ∧
      ∀ session ∈ later.state.store.sessions.values,
        later.state.store.sessionByCertificate session.certificate = some session := by
  have run : authority.Run laterLogged later.state := (run_log authority).next nextDay
  have apart : DigestsApart (certificatesOf laterLogged) := by
    unfold DigestsApart
    decide +kernel
  have fresh : ∀ issued ∈ (Entry.mk nextDay later.result).issued?.toList,
      ∀ other ∈ (registered authority).state.store.sessions.values,
        other.certificate ≠ issued.bytes := by
    decide +kernel
  have single : ¬ authority.Duplicated laterLogged := by
    intro duplicated
    cases (Authority.duplicated_cons_iff (run_log authority)).mp duplicated with
    | inl earlier =>
      -- there was no session before the first one
      cases (Authority.duplicated_cons_iff .initial).mp earlier with
      | inl never => contradiction
      | inr duplicates =>
        obtain ⟨_, -, _, stored, -⟩ := duplicates
        contradiction
    | inr duplicates =>
      obtain ⟨issued, issues, other, stored, -, same⟩ := duplicates
      have returned := Entry.issued?_eq_some_iff.mpr issues
      exact fresh issued (Option.mem_toList.mpr returned) other stored same
  obtain ⟨finds, counts, -⟩ := run.index_covers_iff apart
  exact ⟨run, apart, by decide +kernel, counts.mpr single, finds.mpr single⟩

theorem index_misses_first :
    authority.Run bothLogged again.state ∧ DigestsApart (certificatesOf bothLogged) ∧
      again.state.store.sessionCount = 2 ∧ again.state.store.indexSize = 1 ∧
      ∃ session ∈ again.state.store.sessions.values,
        again.state.store.sessionByCertificate session.certificate ≠ some session := by
  have run : authority.Run bothLogged again.state := (run_log authority).next signIn
  have same : certificatesOf bothLogged = List.replicate 2 (certificate authority) := by
    decide +kernel
  have apart : DigestsApart (certificatesOf bothLogged) := by
    rw [same]
    intro a mem b mem' _
    rw [List.eq_of_mem_replicate mem, List.eq_of_mem_replicate mem']
  have counts : again.state.store.sessionCount = 2 ∧ again.state.store.indexSize = 1 := by
    decide +kernel
  have lost : ¬ again.state.store.FindsAll := by
    obtain ⟨keyed, -, -, sound⟩ := run.orderly
    rw [← Registry.indexSize_eq_sessionCount_iff keyed sound, counts.1, counts.2]
    decide
  refine ⟨run, apart, counts.1, counts.2, ?_⟩
  simpa [Registry.FindsAll] using lost

end SameMillisecond
end CertifiedAccess
