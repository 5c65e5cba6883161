import CertifiedAccess.Authority.Registry
import CertifiedAccess.Proofs.Authority.Table
import Mathlib.Data.List.Induction

/-!
The index of certificates against a history of calls. A certificate leads to the session that was last
saved with it, until that session is deleted or saved with another certificate; the digests by which the
index is kept do not show, as long as none of them collides with that of the certificate asked for.
-/
namespace CertifiedAccess

/-- The calls that write sessions. -/
inductive SessionCall where
  | save (session : Session)
  | storeTransient (session : Session)
  | delete (session : Session)

namespace SessionCall

/-- The registry after a call. -/
def perform (call : SessionCall) (r : Registry) : Except StoreError Registry :=
  match call with
  | .save session => (Backend.saveSession session r).map (·.state)
  | .storeTransient session => (Backend.storeTransient session r).map (·.state)
  | .delete session => (Backend.deleteSession session r).map (·.state)

/-- The session that a call saves. -/
def saved? : SessionCall → Option Session
  | .save session | .storeTransient session => some session
  | .delete _ => none

/-- Whether a call deletes a session or gives it another certificate. -/
def Releases (call : SessionCall) (session : Session) : Prop :=
  match call with
  | .save other | .storeTransient other =>
    other.id = session.id ∧ other.certificate ≠ session.certificate
  | .delete other => other.id = session.id

end SessionCall

/-- The registry that calls lead to from an empty one. -/
def Registry.replay (calls : List SessionCall) : Except StoreError Registry :=
  calls.foldlM (fun r call => call.perform r) Registry.empty

/-- The session is the last that was saved with the certificate, and no later call releases it. -/
def LastHolder (calls : List SessionCall) (certificate : Bytes) (session : Session) : Prop :=
  ∃ before call after, calls = before ++ call :: after ∧
    call.saved? = some session ∧ session.certificate = certificate ∧
    (∀ later ∈ after, ∀ other, later.saved? = some other → other.certificate ≠ certificate) ∧
    ∀ later ∈ after, ¬ later.Releases session

theorem not_lastHolder_nil {certificate : Bytes} {session : Session} :
    ¬ LastHolder [] certificate session := by
  rintro ⟨before, call, after, none_there, -⟩
  simp at none_there

theorem lastHolder_append_iff {calls : List SessionCall} {call : SessionCall} {certificate : Bytes}
    {session : Session} :
    LastHolder (calls ++ [call]) certificate session ↔
      call.saved? = some session ∧ session.certificate = certificate ∨
        LastHolder calls certificate session ∧
          (∀ other, call.saved? = some other → other.certificate ≠ certificate) ∧
          ¬ call.Releases session := by
  constructor
  · rintro ⟨before, saving, after, split, saved, same, last, kept⟩
    cases after using List.reverseRecOn with
    | nil =>
      obtain ⟨-, ends⟩ := List.append_inj' split rfl
      cases ends
      exact .inl ⟨saved, same⟩
    | append_singleton after final =>
      rw [← List.cons_append, ← List.append_assoc] at split
      obtain ⟨front, ends⟩ := List.append_inj' split rfl
      cases ends
      simp only [List.forall_mem_append, List.forall_mem_singleton] at last kept
      exact .inr ⟨⟨before, saving, after, front, saved, same, last.1, kept.1⟩, last.2, kept.2⟩
  · rintro (⟨saved, same⟩ | ⟨⟨before, saving, after, rfl, saved, same, last, kept⟩, last', kept'⟩)
    · exact ⟨calls, call, [], rfl, saved, same, by simp, by simp⟩
    · refine ⟨before, saving, after ++ [call], by simp, saved, same, ?_, ?_⟩
      · simp only [List.forall_mem_append, List.forall_mem_singleton]
        exact ⟨last, last'⟩
      · simp only [List.forall_mem_append, List.forall_mem_singleton]
        exact ⟨kept, kept'⟩

namespace Registry

/-- Every session is kept under its own id. -/
def KeyedById (r : Registry) : Prop :=
  ∀ id session, r.sessions.get? id = some session → session.id = id

theorem sessionByCertificate_eq_some_iff {r : Registry} {certificate : Bytes} {session : Session} :
    r.sessionByCertificate certificate = some session ↔
      ∃ id, r.index.get? (Sha256.digest certificate) = some id ∧
        r.sessions.get? id = some session ∧ session.certificate = certificate := by
  simp only [sessionByCertificate, bind, Option.bind_eq_some_iff]
  constructor
  · rintro ⟨id, led, found, stored, chosen⟩
    by_cases same : found.certificate = certificate
    · simp only [same, beq_self_eq_true, if_true, Option.some.injEq] at chosen
      subst chosen
      exact ⟨id, led, stored, same⟩
    · simp [same] at chosen
  · rintro ⟨id, led, stored, rfl⟩
    exact ⟨id, led, session, stored, by simp⟩

theorem get?_unindex (index : Table Bytes SessionId) (session : Session) (digest : Bytes) :
    (unindex index session).get? digest =
      if Sha256.digest session.certificate = digest ∧ index.get? digest = some session.id then none
      else index.get? digest := by
  unfold unindex
  by_cases here : Sha256.digest session.certificate = digest
  · subst here
    by_cases led : index.get? (Sha256.digest session.certificate) = some session.id
    · simp [led, Table.get?_erase]
    · simp [led]
  · by_cases led : index.get? (Sha256.digest session.certificate) = some session.id
    · simp [led, here, Table.get?_erase]
    · simp [led, here]

theorem keyedById_put {r : Registry} (keyed : r.KeyedById) (session : Session) :
    (put session r).KeyedById := by
  intro id found stored
  simp only [put, Table.get?_insert] at stored
  split at stored
  · cases stored
    assumption
  · exact keyed id found stored

theorem keyedById_remove {r : Registry} (keyed : r.KeyedById) (removed : SessionId) :
    (remove removed r).KeyedById := by
  intro id found stored
  unfold remove at stored
  split at stored
  · rw [Table.get?_erase] at stored
    split at stored
    · contradiction
    · exact keyed id found stored
  · exact keyed id found stored

theorem sessionByCertificate_put_self (r : Registry) (session : Session) :
    (put session r).sessionByCertificate session.certificate = some session := by
  refine sessionByCertificate_eq_some_iff.mpr ⟨session.id, ?_, ?_, rfl⟩
  · exact Table.get?_insert_self _ _ _
  · exact Table.get?_insert_self _ _ _

/-- What a digest leads to after a session with another digest was saved. -/
theorem get?_index_put {r : Registry} {session : Session} {digest : Bytes}
    (different : Sha256.digest session.certificate ≠ digest) :
    (put session r).index.get? digest = r.index.get? digest ∨
      (put session r).index.get? digest = none ∧
        ∃ old, r.sessions.get? session.id = some old ∧ r.index.get? digest = some old.id := by
  simp only [put, Table.get?_insert, different, if_false]
  cases stored : r.sessions.get? session.id with
  | none => exact .inl rfl
  | some old =>
    dsimp only
    split
    · exact .inl rfl
    · rw [get?_unindex]
      split
      · rename_i led
        exact .inr ⟨rfl, old, rfl, led.2⟩
      · exact .inl rfl

/-- Saving another certificate takes this one away from the session that is saved, and from no other. -/
theorem sessionByCertificate_put_iff {r : Registry} (keyed : r.KeyedById) {session found : Session}
    {certificate : Bytes}
    (different : Sha256.digest session.certificate ≠ Sha256.digest certificate) :
    (put session r).sessionByCertificate certificate = some found ↔
      r.sessionByCertificate certificate = some found ∧ session.id ≠ found.id := by
  have other : session.certificate ≠ certificate := fun same => different (congrArg _ same)
  simp only [sessionByCertificate_eq_some_iff]
  have stored_after (id : SessionId) : (put session r).sessions.get? id =
      if session.id = id then some session else r.sessions.get? id := Table.get?_insert _ _ _ _
  constructor
  · rintro ⟨id, led, stored, rfl⟩
    rw [stored_after] at stored
    split at stored
    · cases stored
      exact absurd rfl other
    · rename_i apart
      have own := keyed id found stored
      rcases get?_index_put different with same | ⟨gone, -⟩
      · exact ⟨⟨id, same ▸ led, stored, rfl⟩, own ▸ apart⟩
      · rw [gone] at led
        contradiction
  · rintro ⟨⟨id, led, stored, rfl⟩, apart⟩
    have own := keyed id found stored
    rw [own] at apart
    refine ⟨id, ?_, ?_, rfl⟩
    · rcases get?_index_put different with same | ⟨-, old, kept, leads⟩
      · rw [same, led]
      -- an entry that is gone led to the session that is saved, which is another one
      · have owner := keyed session.id old kept
        rw [led, owner] at leads
        exact absurd (Option.some.inj leads).symm apart
    · rw [stored_after, if_neg apart, stored]

/-- Removing a session takes its certificate away, and no other session's. -/
theorem sessionByCertificate_remove_iff {r : Registry} (keyed : r.KeyedById) {removed : SessionId}
    {found : Session} {certificate : Bytes} :
    (remove removed r).sessionByCertificate certificate = some found ↔
      r.sessionByCertificate certificate = some found ∧ removed ≠ found.id := by
  unfold remove
  cases kept : r.sessions.get? removed with
  | none =>
    simp only [sessionByCertificate_eq_some_iff, iff_self_and]
    rintro ⟨id, -, stored, -⟩ rfl
    rw [keyed id found stored, stored] at kept
    contradiction
  | some old =>
    have owner := keyed removed old kept
    simp only [sessionByCertificate_eq_some_iff, get?_unindex, Table.get?_erase, owner]
    constructor
    · rintro ⟨id, led, stored, rfl⟩
      split at stored
      · contradiction
      · rename_i apart
        split at led
        · contradiction
        · exact ⟨⟨id, led, stored, rfl⟩, keyed id found stored ▸ apart⟩
    · rintro ⟨⟨id, led, stored, rfl⟩, apart⟩
      rw [keyed id found stored] at apart
      refine ⟨id, ?_, ?_, rfl⟩
      · rw [if_neg, led]
        rintro ⟨-, leads⟩
        rw [led] at leads
        exact apart (Option.some.inj leads).symm
      · rw [if_neg apart, stored]

theorem certificate_of_found {r : Registry} {certificate : Bytes} {session : Session}
    (found : r.sessionByCertificate certificate = some session) :
    session.certificate = certificate := by
  obtain ⟨-, -, -, same⟩ := sessionByCertificate_eq_some_iff.mp found
  exact same

/-- Saving, as a history sees it. -/
theorem sessionByCertificate_put {r : Registry} (keyed : r.KeyedById) {session found : Session}
    {certificate : Bytes}
    (distinct : Sha256.digest session.certificate = Sha256.digest certificate →
      session.certificate = certificate) :
    (put session r).sessionByCertificate certificate = some found ↔
      session = found ∧ found.certificate = certificate ∨
        r.sessionByCertificate certificate = some found ∧ session.certificate ≠ certificate ∧
          ¬ (session.id = found.id ∧ session.certificate ≠ found.certificate) := by
  by_cases same : session.certificate = certificate
  · subst same
    rw [sessionByCertificate_put_self, Option.some.injEq]
    constructor
    · rintro rfl
      exact .inl ⟨rfl, rfl⟩
    · rintro (⟨rfl, -⟩ | ⟨-, apart, -⟩)
      · rfl
      · exact absurd rfl apart
  · rw [sessionByCertificate_put_iff keyed fun collision => same (distinct collision)]
    constructor
    · rintro ⟨led, apart⟩
      exact .inr ⟨led, same, fun both => apart both.1⟩
    · rintro (⟨rfl, own⟩ | ⟨led, -, kept⟩)
      · exact absurd own same
      · refine ⟨led, fun same_id => kept ⟨same_id, ?_⟩⟩
        rwa [certificate_of_found led]

/-- One call, as a history sees it. -/
theorem perform_step {r : Registry} (keyed : r.KeyedById) (call : SessionCall) {certificate : Bytes}
    (distinct : ∀ session, call.saved? = some session →
      Sha256.digest session.certificate = Sha256.digest certificate →
      session.certificate = certificate) :
    ∃ next, call.perform r = .ok next ∧ next.KeyedById ∧
      ∀ found, next.sessionByCertificate certificate = some found ↔
        call.saved? = some found ∧ found.certificate = certificate ∨
          r.sessionByCertificate certificate = some found ∧
            (∀ other, call.saved? = some other → other.certificate ≠ certificate) ∧
            ¬ call.Releases found := by
  cases call with
  | save session =>
    refine ⟨put session r, rfl, keyedById_put keyed session, fun found => ?_⟩
    rw [sessionByCertificate_put keyed (distinct session rfl)]
    simp [SessionCall.saved?, SessionCall.Releases]
  | storeTransient session =>
    refine ⟨put session r, rfl, keyedById_put keyed session, fun found => ?_⟩
    rw [sessionByCertificate_put keyed (distinct session rfl)]
    simp [SessionCall.saved?, SessionCall.Releases]
  | delete session =>
    refine ⟨remove session.id r, rfl, keyedById_remove keyed session.id, fun found => ?_⟩
    rw [sessionByCertificate_remove_iff keyed]
    simp [SessionCall.saved?, SessionCall.Releases]

theorem not_sessionByCertificate_empty {certificate : Bytes} {session : Session} :
    empty.sessionByCertificate certificate ≠ some session := by
  intro found
  obtain ⟨id, led, -, -⟩ := sessionByCertificate_eq_some_iff.mp found
  contradiction

/-- After any calls, sessions stand under their own ids and lookups follow the history. -/
theorem replay_spec {certificate : Bytes} (calls : List SessionCall)
    (distinct : ∀ call ∈ calls, ∀ session, call.saved? = some session →
      Sha256.digest session.certificate = Sha256.digest certificate →
      session.certificate = certificate) :
    ∃ r, replay calls = .ok r ∧ r.KeyedById ∧
      ∀ found, r.sessionByCertificate certificate = some found ↔
        LastHolder calls certificate found := by
  -- on the last call: what it does to a history is what it does to the registry before it
  induction calls using List.reverseRecOn with
  | nil =>
    refine ⟨empty, rfl, ?_, fun found => ?_⟩
    · intro id session stored
      contradiction
    · exact iff_of_false not_sessionByCertificate_empty not_lastHolder_nil
  | append_singleton calls call ih =>
    simp only [List.forall_mem_append, List.forall_mem_singleton] at distinct
    obtain ⟨r, replayed, keyed, follows⟩ := ih distinct.1
    obtain ⟨next, performed, keyed', follows'⟩ := perform_step keyed call distinct.2
    refine ⟨next, ?_, keyed', fun found => ?_⟩
    · unfold replay at *
      rw [List.foldlM_append, replayed]
      change (call.perform r >>= fun s => [].foldlM _ s) = _
      rw [performed]
      rfl
    · rw [follows', follows, lastHolder_append_iff]

/-- A certificate is looked up as if the registry kept its whole history. -/
theorem sessionByCertificate_replay (calls : List SessionCall) (certificate : Bytes)
    (distinct : ∀ call ∈ calls, ∀ session, call.saved? = some session →
      Sha256.digest session.certificate = Sha256.digest certificate →
      session.certificate = certificate) :
    ∃ r found, replay calls = .ok r ∧ Backend.sessionByCertificate certificate r = .ok found ∧
      (∀ session, found = some session ↔ LastHolder calls certificate session) ∧
      (found = none ↔ ¬ ∃ session, LastHolder calls certificate session) := by
  obtain ⟨r, replayed, -, follows⟩ := replay_spec calls distinct
  refine ⟨r, r.sessionByCertificate certificate, replayed, rfl, follows, ?_⟩
  rw [← Option.not_isSome_iff_eq_none, Option.isSome_iff_exists]
  exact not_congr (exists_congr follows)

namespace Takeover

def session (number : Nat) (certificate : Bytes) : Session :=
  .make ⟨number⟩ "user-1" ⟨List.replicate 32 0, by decide⟩ certificate
    ⟨0, 0, by decide, by decide, by decide, by decide⟩ none false

/-- The second session takes the certificate of the first, which then gets another. -/
def calls : List SessionCall :=
  [.save (session 1 [1]), .storeTransient (session 2 [1]), .save (session 1 [2])]

theorem lastHolder_second : LastHolder calls [1] (session 2 [1]) := by
  refine ⟨[.save (session 1 [1])], .storeTransient (session 2 [1]), [.save (session 1 [2])], rfl, rfl,
    rfl, ?_, ?_⟩
  · simp only [List.forall_mem_singleton]
    rintro _ ⟨⟩
    decide
  · simp only [List.forall_mem_singleton]
    rintro ⟨same, -⟩
    exact absurd same (by decide)

theorem sessionByCertificate_second :
    ∃ r, replay calls = .ok r ∧
      Backend.sessionByCertificate [1] r = .ok (some (session 2 [1])) := by
  have apart : Sha256.digest [2] ≠ Sha256.digest [1] := by decide +kernel
  have distinct : ∀ call ∈ calls, ∀ session, call.saved? = some session →
      Sha256.digest session.certificate = Sha256.digest [1] → session.certificate = [1] := by
    simp only [calls, List.forall_mem_cons]
    refine ⟨?_, ?_, ?_, by simp⟩
    · rintro _ ⟨⟩ -
      rfl
    · rintro _ ⟨⟩ -
      rfl
    · rintro _ ⟨⟩ collision
      exact absurd collision apart
  obtain ⟨r, found, replayed, looked_up, holds, -⟩ :=
    sessionByCertificate_replay calls [1] distinct
  rw [(holds (session 2 [1])).mpr lastHolder_second] at looked_up
  exact ⟨r, replayed, looked_up⟩

end Takeover
end Registry
end CertifiedAccess
