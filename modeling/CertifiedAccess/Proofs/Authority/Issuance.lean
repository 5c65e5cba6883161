import CertifiedAccess.Proofs.Authority.Actions
import CertifiedAccess.Proofs.Certificate.Granting
import CertifiedAccess.Proofs.Certificate.Validity

/-!
Issuing certificates. Whatever store an authority uses, an operation that hands out a certificate has
found an account in it and sealed what it read there; and no operation does anything to the store but
through its interface.
-/
namespace CertifiedAccess

section
variable [SignatureScheme]

namespace Authority
open CertifiedAccess.Action
variable {σ : Type}

/-- The certificate of an account's key. -/
def certificate (authority : Authority σ) (account : Account) (client : PublicKey)
    (expiresAt : Instant) (mask : RoleMask) : Certificate AccountPayload :=
  ⟨authority.publicKey, client, expiresAt, mask, account.payload⟩

/-- What is issued at some time says exactly this of an account and a key. -/
def Vouches (authority : Authority σ) (account : Account) (client : PublicKey) (now : Instant)
    (issued : IssuedCertificate) : Prop :=
  ∃ validity later mask, now.add? validity = some later ∧
    issued.expiresAt = later.toMillisecond ∧ RoleMask.encode account.roles = .ok mask ∧
    (authority.certificate account client issued.expiresAt mask).sign authority.key = .ok issued.bytes

theorem mint_eq_ok_iff {authority : Authority σ} {account : Account} {client : PublicKey}
    {validity : Span} {now : Instant} {bytes : Bytes} {expiresAt : Instant} :
    authority.mint account client validity now = .ok (bytes, expiresAt) ↔
      ∃ later mask, now.add? validity = some later ∧ expiresAt = later.toMillisecond ∧
        RoleMask.encode account.roles = .ok mask ∧
        (authority.certificate account client expiresAt mask).sign authority.key = .ok bytes := by
  simp only [mint, bind_eq_ok_iff, mapError_eq_ok_iff, pure_eq_ok_iff, Certificate.grant_eq_ok_iff,
    Prod.mk.injEq]
  constructor
  · rintro ⟨_, ⟨later, mask, moved, encoded, rfl⟩, _, sealing, rfl, rfl⟩
    exact ⟨later, mask, moved, rfl, encoded, sealing⟩
  · rintro ⟨later, mask, moved, rfl, encoded, sealing⟩
    exact ⟨_, ⟨later, mask, moved, encoded, rfl⟩, bytes, sealing, rfl, rfl⟩

/-- What is handed out is the wire form of the certificate, and behind it the tag and the 64 octets of the
authority's signature over it, after their length. -/
theorem octets_of_sign {authority : Authority σ} {c : Certificate AccountPayload} {bytes : Bytes}
    (signed : c.sign authority.key = .ok bytes) :
    c.encode = .ok c.octets ∧
      bytes = c.octets ++ (Bytes.bigEndian 4 65 ++ 1 :: (authority.key.sign c.octets).raw) := by
  obtain ⟨-, content, wrote, same⟩ := Certificate.sign_eq_ok_iff.mp signed
  obtain rfl := Certificate.encode_account_eq wrote
  exact ⟨wrote, same⟩

theorem minted_yields_iff {authority : Authority σ} {account : Account} {client : PublicKey}
    {transient : Bool} {now : Instant} {before after : World σ} {result : Bytes × Instant} :
    (authority.minted account client transient now : Deed σ _).Yields before result after ↔
      authority.mint account client (authority.window transient) now = .ok result ∧
        before = after := by
  unfold minted
  cases authority.mint account client (authority.window transient) now with
  | ok made => simp [yields_pure_iff]
  | error e =>
    constructor
    · intro done
      exact absurd done not_yields_failWith
    · rintro ⟨failed, -⟩
      contradiction

theorem vouches_of_mint {authority : Authority σ} {account : Account} {client : PublicKey}
    {validity : Span} {now : Instant} {issued : IssuedCertificate}
    (made : authority.mint account client validity now = .ok (issued.bytes, issued.expiresAt)) :
    authority.Vouches account client now issued := by
  obtain ⟨later, mask, moved, expires, encoded, sealing⟩ := mint_eq_ok_iff.mp made
  exact ⟨validity, later, mask, moved, expires, encoded, sealing⟩

/-- What an authority vouches for is the sealed form of a certificate that can be read back. -/
theorem Vouches.sealedAs [LawfulScheme] {authority : Authority σ} {account : Account}
    {client : PublicKey} {now : Instant} {issued : IssuedCertificate}
    (vouches : authority.Vouches account client now issued)
    (genuine : SignatureScheme.denotes client = true) (ordinary : now.isLeap = false) :
    ∃ mask, RoleMask.encode account.roles = .ok mask ∧
      (authority.certificate account client issued.expiresAt mask).IsReadable ∧
      (authority.certificate account client issued.expiresAt mask).IsSealedAs issued.bytes := by
  obtain ⟨validity, later, mask, moved, expires, encoded, sealing⟩ := vouches
  refine ⟨mask, encoded, ?_, Certificate.isSealedAs_of_sign sealing⟩
  have ordinary' := Instant.isLeap_add? ordinary moved
  rw [expires]
  exact Certificate.isReadable_make (LawfulScheme.denotes_publicKey authority.key) genuine ordinary'
    trivial

variable [Backend σ] {authority : Authority σ} {before after : World σ} {issued : IssuedCertificate}

theorem vouches_of_openSession {account : Account} {client : PublicKey} {options : SignInOptions}
    {now : Instant}
    (done : (authority.openSession account client options now).Yields before issued after) :
    authority.Vouches account client now issued := by
  unfold openSession at done
  obtain ⟨allowed, _, -, done⟩ := yields_bind_iff.mp done
  cases allowed with
  | false => exact absurd done not_yields_failWith
  | true =>
    obtain ⟨⟨bytes, expiresAt⟩, _, made, done⟩ := yields_bind_iff.mp done
    obtain ⟨id, _, -, done⟩ := yields_bind_iff.mp done
    obtain ⟨_, _, -, done⟩ := yields_bind_iff.mp done
    obtain ⟨_, _, -, done⟩ := yields_bind_iff.mp done
    obtain ⟨rfl, -⟩ := yields_pure_iff.mp done
    exact vouches_of_mint (minted_yields_iff.mp made).1

/-- A sign-up vouches for the account that it has just registered. -/
theorem vouches_of_signUp {credentials : Credentials} {client : PublicKey} {now : Instant}
    (done : (authority.signUp credentials client now).Yields before issued after) :
    ∃ created middle, Backend.createAccount credentials before.store = .ok created ∧
      middle.store = created.state ∧
      (authority.openSession created.value client .persistent now).Yields middle issued after ∧
      authority.Vouches created.value client now issued := by
  unfold signUp at done
  obtain ⟨account, _, registered, done⟩ := yields_bind_iff.mp done
  obtain ⟨_, _, reported, done⟩ := yields_bind_iff.mp done
  rw [yields_changeOr_iff (by rintro (_ | _) _ _ <;> exact not_yields_failWith)] at registered
  obtain ⟨created, made, rfl, rfl⟩ := registered
  obtain rfl := yields_emit_iff.mp reported
  exact ⟨created, _, made, rfl, done, vouches_of_openSession done⟩

/-- A sign-in vouches for the account that has these credentials. -/
theorem vouches_of_signIn {credentials : Credentials} {client : PublicKey} {options : SignInOptions}
    {now : Instant}
    (done : (authority.signIn credentials client options now).Yields before issued after) :
    ∃ account, Backend.accountByCredentials credentials before.store = .ok (some account) ∧
      authority.Vouches account client now issued := by
  unfold signIn at done
  obtain ⟨found, _, asked, done⟩ := yields_bind_iff.mp done
  obtain ⟨known, rfl⟩ := yields_ask_iff.mp asked
  cases found with
  | none => exact absurd done not_yields_failWith
  | some account => exact ⟨account, known, vouches_of_openSession done⟩

/-- A renewal vouches for the account of the session and for the session's own key. -/
theorem vouches_of_refresh {certificate : Bytes} {now : Instant}
    (done : (authority.refresh certificate now).Yields before issued after) :
    ∃ session account,
      Backend.sessionByCertificate certificate before.store = .ok (some session) ∧
      Backend.accountById session.userId before.store = .ok (some account) ∧
      authority.Vouches account session.clientKey now issued := by
  unfold refresh at done
  obtain ⟨found, _, asked, done⟩ := yields_bind_iff.mp done
  obtain ⟨current, rfl⟩ := yields_ask_iff.mp asked
  cases valid : found.filter Session.valid with
  | none =>
    rw [valid] at done
    exact absurd done not_yields_fail
  | some session =>
    rw [valid] at done
    obtain ⟨rfl, -⟩ := Option.filter_eq_some_iff.mp valid
    dsimp only at done
    split at done
    · exact absurd done not_yields_failWith
    · obtain ⟨owner, _, asked', done⟩ := yields_bind_iff.mp done
      obtain ⟨owned, rfl⟩ := yields_ask_iff.mp asked'
      cases owner with
      | none => exact absurd done not_yields_fail
      | some account =>
        dsimp only at done
        split at done
        · exact absurd done not_yields_failWith
        · obtain ⟨⟨bytes, expiresAt⟩, _, made, done⟩ := yields_bind_iff.mp done
          obtain ⟨_, _, -, done⟩ := yields_bind_iff.mp done
          obtain ⟨_, _, -, done⟩ := yields_bind_iff.mp done
          obtain ⟨rfl, -⟩ := yields_pure_iff.mp done
          exact ⟨session, account, current, owned, vouches_of_mint (minted_yields_iff.mp made).1⟩

end Authority
end
end CertifiedAccess
