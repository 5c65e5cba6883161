import CertifiedAccess.Proofs.Authority.Histories
import CertifiedAccess.Proofs.Service.Admission

/-!
From an authority to a service. Whatever an authority did before, a certificate that it issues lets the
device that it was issued for act as its user, with the roles that the user had then, at every service
that trusts the authority, up to its expiry and no longer.
-/
namespace CertifiedAccess
open Http

section
variable [SignatureScheme]

section
variable {π : Type} [Wire.Codec π] [Wire.Canonical π]

/-- One header value presents one certificate. -/
theorem Gate.presents_unique {value : HeaderValue} {c c' : Certificate π} (readable : c.IsReadable)
    (readable' : c'.IsReadable) (presented : Gate.Presents value c)
    (presented' : Gate.Presents value c') : c = c' := by
  obtain ⟨text, bytes, rfl, decoded, sealed_as⟩ := presented
  obtain ⟨text', bytes', same, decoded', sealed_as'⟩ := presented'
  rw [← Text.utf8_inj.mp same, decoded] at decoded'
  rw [← Option.some.inj decoded'] at sealed_as'
  exact Certificate.isSealedAs_unique readable readable' sealed_as sealed_as'

variable [LawfulScheme] {gate : Gate} {c : Certificate π} {bytes : Bytes} {device : PrivateKey}
  {unsigned request : Request} {now : Instant}

omit [Wire.Canonical π] [Wire.Codec π] in
theorem Gate.signedUnder_of_sign (signs : unsigned.sign device = .ok request) :
    Gate.SignedUnder request device.publicKey := by
  obtain ⟨message, -, signed⟩ := Request.signedBy_of_sign signs
  have genuine := LawfulScheme.verify_sign device message
  exact Gate.verify_eq_ok_iff_signedUnder.mp (signed.verify_eq_ok genuine)

omit [Wire.Canonical π] [Wire.Codec π] [LawfulScheme] in
/-- Signing leaves the certificate where it was. -/
theorem Request.certificate_of_sign (signs : unsigned.sign device = .ok request) :
    request.headers.first? certificateHeader.name =
      unsigned.headers.first? certificateHeader.name := by
  obtain ⟨-, -, -, kept⟩ := Request.sign_frame signs
  rw [Headers.first?, kept _ (by decide) (by decide), Headers.first?]

/-- A device that signs with its own certificate is recognised until the certificate expires. -/
theorem Gate.authenticate_of_sign (readable : c.IsReadable) (sealed_as : c.IsSealedAs bytes)
    (trusted : c.issuer ∈ gate.trusted.keys) (own : c.client = device.publicKey)
    (carries : unsigned.headers.first? certificateHeader.name =
      some (Text.utf8 (encodeBase64 bytes)))
    (signs : unsigned.sign device = .ok request)
    (small : request.body.length ≤ gate.maxBodyBytes) :
    (now ≤ c.expiresAt →
      gate.authenticate request now = .authenticated ⟨c, Fingerprint.ofPublicKey c.client⟩) ∧
    (c.expiresAt < now →
      (gate.authenticate request now : Verdict π) = .anonymous .invalidCertificate) := by
  have presented := Gate.presents_encodeBase64 sealed_as
  have present := (Request.certificate_of_sign signs).trans carries
  constructor
  · intro unexpired
    have signed := Gate.signedUnder_of_sign signs
    rw [← own] at signed
    have admitted : gate.Admits _ now c := ⟨presented, trusted, unexpired⟩
    exact Gate.authenticate_of_deserves
      (.authenticated readable ⟨⟨_, present, admitted⟩, small, signed⟩)
  · intro expired
    refine Gate.authenticate_of_deserves (.invalidCertificate present ?_)
    intro c' readable' admitted
    -- what the header presents is one certificate, so its expiry is the one that counts
    have same := Gate.presents_unique readable readable' presented admitted.presented
    subst same
    exact admitted.unexpired expired

end

/-- Whose certificate an operation issues: the account, the key that it is issued for, and when. A new
account is found after the operation, all others before; a renewal is for the user and the key of the
session that has the certificate. -/
inductive Operation.Concerns (before after : Registry) :
    Operation → Account → PublicKey → Instant → Prop where
  | signUp {credentials : Credentials} {client : PublicKey} {now : Instant} {account : Account}
    (registered : after.accounts.get? credentials.username = some account) :
    Concerns before after (.signUp credentials client now) account client now
  | signIn {credentials : Credentials} {client : PublicKey} {options : SignInOptions} {now : Instant}
    {account : Account} (known : before.accounts.get? credentials.username = some account) :
    Concerns before after (.signIn credentials client options now) account client now
  | refresh {certificate : Bytes} {now : Instant} {session : Session} {username : String}
    {account : Account} (current : before.sessionByCertificate certificate = some session)
    (known : before.accounts.get? username = some account) (owner : account.id = session.userId) :
    Concerns before after (.refresh certificate now) account session.clientKey now

namespace Operation
variable {authority : Authority Registry} {before after : World Registry}
  {operation : Operation} {issued : IssuedCertificate}

omit [SignatureScheme] in
theorem concerns_unique {before after : Registry} (held : before.AccountsNumbered)
    {account account' : Account} {client client' : PublicKey} {now now' : Instant}
    (first : operation.Concerns before after account client now)
    (second : operation.Concerns before after account' client' now') :
    account = account' ∧ client = client' ∧ now = now' := by
  cases first with
  | signUp registered =>
    cases second with
    | signUp registered' =>
      exact ⟨Option.some.inj (registered.symm.trans registered'), rfl, rfl⟩
  | signIn known =>
    cases second with
    | signIn known' => exact ⟨Option.some.inj (known.symm.trans known'), rfl, rfl⟩
  | refresh current known owner =>
    cases second with
    | refresh current' known' owner' =>
      cases Option.some.inj (current.symm.trans current')
      -- accounts with one id have one name, so they are one account
      have name := held.distinct _ _ _ _ known known' (owner.trans owner'.symm)
      subst name
      exact ⟨Option.some.inj (known.symm.trans known'), rfl, rfl⟩

/-- An operation that issues a certificate vouches for the account and the key that it concerns. -/
theorem exists_concerns (held : before.store.AccountsNumbered)
    (issues : (operation.deed authority).Yields before (some issued) after) :
    ∃ account client now, operation.Concerns before.store after.store account client now ∧
      authority.Vouches account client now issued := by
  cases operation with
  | signUp credentials client now =>
    have done := Action.yields_some_iff.mp issues
    obtain ⟨created, middle, made, stored, opened, vouches⟩ := Authority.vouches_of_signUp done
    have registered := (Registry.accountsNumbered_createAccount held made).2
    rw [← stored] at registered
    have respected : RespectedBySessions fun r : Registry =>
        r.accounts.get? credentials.username = some created.value := by
      refine Registry.respectedBySessions_of_accounts ?_
      intro r r' accounts _ found
      rwa [accounts]
    have kept := authority.keepsStore_openSession respected created.value client .persistent now
      middle registered
    rw [opened.2] at kept
    exact ⟨created.value, client, now, .signUp kept, vouches⟩
  | signIn credentials client options now =>
    have done := Action.yields_some_iff.mp issues
    obtain ⟨account, found, vouches⟩ := Authority.vouches_of_signIn done
    have known := Registry.get?_of_accountByCredentials (Except.ok.inj found)
    exact ⟨account, client, now, .signIn known, vouches⟩
  | refresh certificate now =>
    have done := Action.yields_some_iff.mp issues
    obtain ⟨session, account, current, owned, vouches⟩ := Authority.vouches_of_refresh done
    obtain ⟨name, known, owner⟩ := Registry.stored_of_accountById (Except.ok.inj owned)
    exact ⟨account, session.clientKey, now, .refresh (Except.ok.inj current) known owner, vouches⟩
  | signOut certificate => exact absurd issues Action.not_yields_none
  | setRoles username roles => exact absurd issues Action.not_yields_none
  | setEnabled username enabled => exact absurd issues Action.not_yields_none

end Operation

variable [LawfulScheme] {authority : Authority Registry}

/-- Any run, any operation of it that issues a certificate, any request, any service, any time. There is
an account that the certificate is for, and no other could be meant; the bits of the mask that the service is
told are the roles that the account had. -/
theorem authenticate_issued {log : List Entry} {before after : World Registry} {operation : Operation}
    {issued : IssuedCertificate} (run : authority.Run log before)
    (issues : (operation.deed authority).Yields before (some issued) after) :
    (∃ account client now, operation.Concerns before.store after.store account client now) ∧
      ∀ (account : Account) (device : PrivateKey) (now : Instant),
        operation.Concerns before.store after.store account device.publicKey now →
        now.isLeap = false →
        ∃ mask, RoleMask.encode account.roles = .ok mask ∧
          (∀ id : UInt8, (mask.contains id = true ↔ ⟨id⟩ ∈ account.roles) ∧
            (⟨id⟩ ∈ account.roles ↔
              id.toNat < maxRoles ∧ mask.bits.toNat.testBit id.toNat = true)) ∧
          ∀ (unsigned request : Request) (gate : Gate) (t : Instant),
            unsigned.headers.first? certificateHeader.name =
              some (Text.utf8 (encodeBase64 issued.bytes)) →
            unsigned.sign device = .ok request →
            authority.publicKey ∈ gate.trusted.keys →
            request.body.length ≤ gate.maxBodyBytes →
            (t ≤ issued.expiresAt → gate.authenticate request t = .authenticated
              ⟨⟨authority.publicKey, device.publicKey, issued.expiresAt, mask,
                (⟨account.id, account.username⟩ : AccountPayload)⟩,
                Fingerprint.ofPublicKey device.publicKey⟩) ∧
            (issued.expiresAt < t →
              (gate.authenticate request t : Verdict AccountPayload) =
                .anonymous .invalidCertificate) := by
  have held := run.accountsNumbered
  obtain ⟨account, client, now, concerns, vouches⟩ := Operation.exists_concerns held issues
  refine ⟨⟨account, client, now, concerns⟩, ?_⟩
  intro account' device now' concerns' ordinary
  obtain ⟨rfl, rfl, rfl⟩ := Operation.concerns_unique held concerns' concerns
  obtain ⟨mask, encoded, readable, sealed_as⟩ :=
    vouches.sealedAs (LawfulScheme.denotes_publicKey device) ordinary
  refine ⟨mask, encoded, fun id => RoleMask.stands_of_encode encoded, ?_⟩
  intro unsigned request gate t carries signs trusts small
  exact Gate.authenticate_of_sign readable sealed_as trusts rfl carries signs small

end

/-! A user who signs up, is given the first and the last role and signs in again, and a request in that session
before and after the certificate expires. -/
namespace Promoted
open Newcomer
local instance : SignatureScheme := trustingEd25519
local instance : LawfulScheme := lawful_trustingEd25519

def authority : Authority Registry := .standard key

def account : Account := ⟨"user-1", "alice", "secret", [⟨63⟩, ⟨0⟩], true⟩

def promotion : Operation := .setRoles "alice" account.roles

def promoted := (promotion.deed authority).run (registered authority).state

def history : List Entry := ⟨promotion, promoted.result⟩ :: log authority

def signIn : Operation := .signIn credentials device.publicKey .persistent (day 1)

def outcome := (signIn.deed authority).run promoted.state

def issued : IssuedCertificate :=
  match outcome.result with
  | .ok (some certificate) => certificate
  | _ => ⟨[], day 1, ⟨0⟩⟩

/-- The two roles, as bits. -/
def mask : RoleMask := ⟨0x8000000000000001⟩

def unsigned : Request where
  method := ⟨"DELETE", by decide⟩
  target := .origin "/orders"
  headers := Headers.none.set certificateHeader.name (Text.utf8 (encodeBase64 issued.bytes))
  body := []

def message : Bytes :=
  (canonicalParts "DELETE" "/orders" unsigned.withDigest.headers).flatMap framed

def gate : Gate := ⟨⟨[authority.publicKey], by simp⟩, 1000⟩

theorem issues_second : (signIn.deed authority).Yields promoted.state (some issued) outcome.state :=
  ⟨by decide +kernel, rfl⟩

theorem concerns_alice :
    signIn.Concerns promoted.state.store outcome.state.store account device.publicKey (day 1) :=
  .signIn (by decide +kernel)

theorem authenticate_alice :
    authority.Run history promoted.state ∧ ∃ request, unsigned.sign device = .ok request ∧
      gate.authenticate request (day 2) = .authenticated
        ⟨⟨authority.publicKey, device.publicKey, issued.expiresAt, mask,
          (⟨"user-1", "alice"⟩ : AccountPayload)⟩, Fingerprint.ofPublicKey device.publicKey⟩ ∧
      (gate.authenticate request (day 99) : Verdict AccountPayload) = .anonymous .invalidCertificate := by
  have run : authority.Run history promoted.state := (run_log authority).next promotion
  have formed : unsigned.withDigest.covered = .ok message := by decide +kernel
  obtain ⟨request, signs⟩ := Request.exists_sign device formed
  have carries : unsigned.headers.first? certificateHeader.name =
      some (Text.utf8 (encodeBase64 issued.bytes)) := by
    rw [Headers.first?, unsigned, Headers.values_set_self, List.head?_cons]
  have small : request.body.length ≤ gate.maxBodyBytes := by
    rw [(Request.sign_frame signs).2.2.1]
    exact Nat.zero_le _
  obtain ⟨-, serves⟩ := authenticate_issued run issues_second
  obtain ⟨told, encoded, -, verdicts⟩ := serves account device (day 1) concerns_alice rfl
  have two_bits : RoleMask.encode account.roles = .ok mask := by decide
  cases Except.ok.inj (encoded.symm.trans two_bits)
  have trusts : authority.publicKey ∈ gate.trusted.keys := List.mem_singleton.mpr rfl
  have live : day 2 ≤ issued.expiresAt := by decide +kernel
  have past : issued.expiresAt < day 99 := by decide +kernel
  obtain ⟨serves_now, -⟩ := verdicts unsigned request gate (day 2) carries signs trusts small
  obtain ⟨-, refuses_then⟩ := verdicts unsigned request gate (day 99) carries signs trusts small
  exact ⟨run, request, signs, serves_now live, refuses_then past⟩

end Promoted
end CertifiedAccess
