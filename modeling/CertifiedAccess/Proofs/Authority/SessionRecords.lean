import CertifiedAccess.Proofs.Authority.Histories

/-!
Records and certificates. What a registry says of a session, its user, key and expiry, is what the
certificate says that it keeps with it; so a service that is shown the certificate and the authority that
looks at the record never disagree, whatever was renewed, signed out or changed about the user since.
-/
namespace CertifiedAccess

/-- The certificate that the record of a session describes, given what the record does not say. -/
def Session.described (s : Session) (issuer : PublicKey) (roles : RoleMask) (username : String) :
    Certificate AccountPayload :=
  ⟨issuer, s.clientKey, s.expiresAt, roles, ⟨s.userId, username⟩⟩

section
variable [SignatureScheme]

/-- The user of the session is known, and the certificate that is kept with the session is the sealed form
of what its record describes. -/
def Authority.Describes (authority : Authority Registry) (r : Registry) (s : Session) : Prop :=
  ∃ account ∈ r.accounts.values, account.id = s.userId ∧ ∃ roles,
    (s.described authority.publicKey roles account.username).IsReadable ∧
      (s.described authority.publicKey roles account.username).IsSealedAs s.certificate

namespace Authority.Describes
variable {authority : Authority Registry} {r r' : Registry} {s : Session}

theorem mono (described : authority.Describes r s) (stay : r.AccountsStay r') :
    authority.Describes r' s := by
  obtain ⟨account, known, own, roles, readable, sealed_as⟩ := described
  obtain ⟨account', known', id, name⟩ := stay account known
  refine ⟨account', known', id.trans own, roles, ?_, ?_⟩
  · rwa [name]
  · rwa [name]

/-- Signing out changes nothing that a certificate says. -/
theorem invalidated (described : authority.Describes r s) : authority.Describes r s.invalidated :=
  described

theorem denotes (described : authority.Describes r s) :
    SignatureScheme.denotes s.clientKey = true := by
  obtain ⟨account, known, own, roles, readable, sealed_as⟩ := described
  exact readable.client

theorem of_mint [LawfulScheme] {account : Account} {validity : Span} {now : Instant}
    (known : account ∈ r.accounts.values) (own : account.id = s.userId)
    (minted : authority.mint account s.clientKey validity now = .ok (s.certificate, s.expiresAt))
    (genuine : SignatureScheme.denotes s.clientKey = true) (ordinary : now.isLeap = false) :
    authority.Describes r s := by
  have vouches : authority.Vouches account s.clientKey now (issuedFor s) := vouches_of_mint minted
  obtain ⟨roles, -, readable, sealed_as⟩ := vouches.sealedAs genuine ordinary
  have same : authority.certificate account s.clientKey s.expiresAt roles =
      s.described authority.publicKey roles account.username := by
    rw [Session.described, ← own]
    rfl
  refine ⟨account, known, own, roles, ?_, ?_⟩
  · exact same ▸ readable
  · exact same ▸ sealed_as

/-- Two records with one certificate describe one session of one user and key. -/
theorem agree {s' : Session} (described : authority.Describes r s)
    (described' : authority.Describes r s') (same : s.certificate = s'.certificate) :
    s.userId = s'.userId ∧ s.clientKey = s'.clientKey ∧ s.expiresAt = s'.expiresAt := by
  obtain ⟨account, -, -, roles, readable, sealed_as⟩ := described
  obtain ⟨account', -, -, roles', readable', sealed_as'⟩ := described'
  rw [← same] at sealed_as'
  have one := Certificate.isSealedAs_unique readable readable' sealed_as sealed_as'
  simp only [Session.described, Certificate.mk.injEq, AccountPayload.mk.injEq] at one
  obtain ⟨-, client, expiry, -, user, -⟩ := one
  exact ⟨user, client, expiry⟩

end Authority.Describes

theorem Certificate.validate_sealed_iff {π : Type} [Wire.Codec π] [Wire.Canonical π]
    {c found : Certificate π} {bytes : Bytes} {trusted : TrustedKeys} {t : Instant}
    (readable : c.IsReadable) (sealed_as : c.IsSealedAs bytes) (known : c.issuer ∈ trusted.keys) :
    validate trusted bytes t = .ok found ↔ found = c ∧ t ≤ c.expiresAt := by
  rw [validate_eq_ok_iff]
  constructor
  · rintro ⟨readable', sealed_as', -, live⟩
    obtain rfl := isSealedAs_unique readable readable' sealed_as sealed_as'
    exact ⟨rfl, live⟩
  · rintro ⟨rfl, live⟩
    exact ⟨readable, sealed_as, known, live⟩

variable [LawfulScheme]

namespace Operation
variable {authority : Authority Registry} {before after : World Registry} {operation : Operation}
  {result : Except SessionError (Option IssuedCertificate)}

theorem Effect.describes (held : before.Orderly)
    (effect : Effect authority before operation result after)
    (genuine : ∀ client, operation.client? = some client → SignatureScheme.denotes client = true)
    (ordinary : ∀ now, operation.time? = some now → now.isLeap = false)
    (described : ∀ s ∈ before.store.sessions.values, authority.Describes before.store s)
    {s : Session} (stored : s ∈ after.store.sessions.values) : authority.Describes after.store s := by
  have stay := effect.accountsStay
  cases effect with
  | passed passes =>
    rw [passes.frame.1] at stored
    exact (described s stored).mono stay
  | @opened _ account client _ now store session asks opens =>
    obtain ⟨-, known, sessions, -⟩ := asks.frame
    rcases (Registry.mem_sessions_put (asks.orderly held).keyed).mp stored with rfl | ⟨there, -⟩
    · obtain ⟨user, key, -⟩ := opens.frame
      obtain ⟨brings, timed⟩ := asks.inputs
      subst key
      exact .of_mint known user.symm opens.minted (genuine _ brings) (ordinary now timed)
    · rw [sessions] at there
      exact (described s there).mono stay
  | @renewed _ now session account renewed renews =>
    rcases (Registry.mem_sessions_put held.keyed).mp stored with rfl | ⟨there, -⟩
    · obtain ⟨known, own⟩ := Registry.mem_accounts_of_accountById renews.owner
      have old := described session (Registry.mem_sessions_of_found renews.current)
      -- the user and the key are those of the session before
      obtain ⟨-, user, key, -⟩ := renews.frame
      have minted := renews.minted
      have denotes := old.denotes
      rw [← key] at minted denotes
      exact .of_mint known (own.trans user.symm) minted denotes (ordinary now rfl)
    · exact (described s there).mono stay
  | @ended _ session current =>
    rcases (mem_sessions_ended held.keyed).mp stored with ⟨there, -⟩ | ⟨-, rfl⟩
    · exact (described s there).mono stay
    · have old := described session (Registry.mem_sessions_of_found current)
      exact (old.mono stay).invalidated

end Operation

namespace Authority
variable {authority : Authority Registry} {log : List Entry} {world : World Registry}

theorem Run.describes (run : authority.Run log world)
    (genuine : ∀ client ∈ clientsOf log, SignatureScheme.denotes client = true)
    (ordinary : ∀ now ∈ timesOf log, now.isLeap = false) {s : Session}
    (stored : s ∈ world.store.sessions.values) : authority.Describes world.store s := by
  induction run generalizing s with
  | initial => contradiction
  | @step log before after entry run ended ih =>
    have genuine_then (client : PublicKey) (mem : client ∈ clientsOf log) :=
      genuine client (List.filterMap_subset _ (List.subset_cons_self _ _) mem)
    have ordinary_then (now : Instant) (mem : now ∈ timesOf log) :=
      ordinary now (List.filterMap_subset _ (List.subset_cons_self _ _) mem)
    refine (Operation.effect ended).describes run.orderly ?_ ?_ ?_ stored
    · intro client brings
      exact genuine client (List.mem_filterMap.mpr ⟨entry, List.mem_cons_self, brings⟩)
    · intro now timed
      exact ordinary now (List.mem_filterMap.mpr ⟨entry, List.mem_cons_self, timed⟩)
    · intro other there
      exact ih genuine_then ordinary_then there

/-- Records agree with their certificates, in every registry that a run leads to. So a validator that
trusts the authority accepts the certificate of a session exactly up to the expiry in its record, and
certificates with the same octets are of one user and key, with one expiry. -/
theorem Run.session_records (run : authority.Run log world)
    (genuine : ∀ client ∈ clientsOf log, SignatureScheme.denotes client = true)
    (ordinary : ∀ now ∈ timesOf log, now.isLeap = false) :
    (∀ s ∈ world.store.sessions.values,
      ∃ account ∈ world.store.accounts.values, account.id = s.userId ∧ ∃ roles,
        (s.described authority.publicKey roles account.username).IsSealedAs s.certificate ∧
        ∀ (trusted : TrustedKeys) (t : Instant), authority.publicKey ∈ trusted.keys →
          ∀ found : Certificate AccountPayload,
            Certificate.validate trusted s.certificate t = .ok found ↔
              found = s.described authority.publicKey roles account.username ∧ t ≤ s.expiresAt) ∧
    ∀ s ∈ world.store.sessions.values, ∀ s' ∈ world.store.sessions.values,
      s.certificate = s'.certificate →
        s.userId = s'.userId ∧ s.clientKey = s'.clientKey ∧ s.expiresAt = s'.expiresAt := by
  constructor
  · intro s stored
    obtain ⟨account, known, own, roles, readable, sealed_as⟩ :=
      run.describes genuine ordinary stored
    refine ⟨account, known, own, roles, sealed_as, ?_⟩
    intro trusted t trusts found
    exact Certificate.validate_sealed_iff readable sealed_as trusts
  · intro s stored s' stored' same
    exact (run.describes genuine ordinary stored).agree (run.describes genuine ordinary stored') same

end Authority
end

/-! A user who signs up and signs out at an authority that keeps a record of it. -/
namespace SignedOut
open Newcomer
local instance : SignatureScheme := trustingEd25519
local instance : LawfulScheme := lawful_trustingEd25519

def authority : Authority Registry :=
  { (.standard key : Authority Registry) with retainSignedOut := true }

def signOut : Operation := .signOut (certificate authority)

def signedOut := (signOut.deed authority).run (registered authority).state

def bothLogged : List Entry := ⟨signOut, signedOut.result⟩ :: log authority

def trusted : TrustedKeys := ⟨[authority.publicKey], by simp⟩

/-- The record is over, the certificate is not. -/
theorem validate_signed_out :
    ∃ s ∈ signedOut.state.store.sessions.values, s.valid = false ∧
      ∃ found : Certificate AccountPayload,
        Certificate.validate trusted s.certificate (day 1) = .ok found ∧
          found.client = device.publicKey := by
  have run : authority.Run bothLogged signedOut.state := (run_log authority).next signOut
  obtain ⟨s, stored, ended, own, live⟩ : ∃ s ∈ signedOut.state.store.sessions.values,
      s.valid = false ∧ s.clientKey = device.publicKey ∧ day 1 ≤ s.expiresAt := by
    decide +kernel
  have ordinary : ∀ t ∈ timesOf bothLogged, t.isLeap = false := by decide
  obtain ⟨records, -⟩ := run.session_records (fun _ _ => rfl) ordinary
  obtain ⟨account, -, -, roles, -, validates⟩ := records s stored
  have trusts : authority.publicKey ∈ trusted.keys := List.mem_singleton.mpr rfl
  exact ⟨s, stored, ended, _, (validates trusted (day 1) trusts _).mpr ⟨rfl, live⟩, own⟩

end SignedOut
end CertifiedAccess
