import CertifiedAccess.Certificate.Validation
import CertifiedAccess.Key.Ed25519
import CertifiedAccess.Proofs.Certificate.WireForm
import CertifiedAccess.Proofs.Wire.Opening

/-!
Valid certificates: sealed by their own issuer, which is trusted, and not past their expiry. Validation
gives exactly the certificate that the sealed octets say.
-/
namespace CertifiedAccess

/-- What a signature scheme is for: a secret's key can be written down, and accepts what the secret
signs. -/
class LawfulScheme [SignatureScheme] : Prop where
  denotes_publicKey (key : PrivateKey) : SignatureScheme.denotes key.publicKey = true
  verify_sign (key : PrivateKey) (message : Bytes) :
    key.publicKey.verify message (key.sign message) = true

/-- Ed25519 where every key counts as one and every signature as genuine. -/
@[reducible] def trustingEd25519 : SignatureScheme :=
  { ed25519 with
    denotes := fun _ => true
    accepts := fun _ _ _ => true }

theorem lawful_trustingEd25519 : @LawfulScheme trustingEd25519 := by
  let _ := trustingEd25519
  constructor
  · intro key
    rfl
  · intro key message
    rfl

namespace Certificate
open Wire
variable [SignatureScheme] {π : Type} [Codec π]

/-- The wire form, then 65 octets behind their length: the tag and a signature by the issuer. -/
def IsSealedAs (c : Certificate π) (bytes : Bytes) : Prop :=
  ∃ content signature, c.encode = .ok content ∧
    bytes = content ++ (Bytes.bigEndian 4 65 ++ 1 :: signature.raw) ∧
    c.issuer.verify content signature = true

/-- Only the issuer seals a certificate, and what comes of it is the wire form with the issuer's signature
over it. -/
theorem sign_eq_ok_iff {c : Certificate π} {issuer : PrivateKey} {bytes : Bytes} :
    c.sign issuer = .ok bytes ↔ issuer.publicKey = c.issuer ∧ ∃ content, c.encode = .ok content ∧
      bytes = content ++ (Bytes.bigEndian 4 65 ++ 1 :: (issuer.sign content).raw) := by
  unfold sign
  by_cases own : issuer.publicKey = c.issuer
  · rw [if_pos own, and_iff_right own, sealValue_eq_ok_iff]
    simp only [signatureField_eq]
    exact Iff.rfl
  · rw [if_neg own]
    constructor
    · intro impossible
      contradiction
    · rintro ⟨same, -⟩
      exact absurd same own

theorem isSealedAs_of_sign [LawfulScheme] {c : Certificate π} {issuer : PrivateKey} {bytes : Bytes}
    (signed : c.sign issuer = .ok bytes) : c.IsSealedAs bytes := by
  obtain ⟨own, content, wrote, same⟩ := sign_eq_ok_iff.mp signed
  refine ⟨content, issuer.sign content, wrote, same, ?_⟩
  rw [← own]
  exact LawfulScheme.verify_sign issuer content

omit [SignatureScheme] [Codec π] in
theorem check_eq_ok_iff {c : Certificate π} {trusted : TrustedKeys} {now : Instant} {u : Unit} :
    c.check trusted now = .ok u ↔ c.issuer ∈ trusted.keys ∧ now ≤ c.expiresAt := by
  have live : now ≤ c.expiresAt ↔ ¬ c.isExpiredAt now = true := by
    rw [isExpiredAt, decide_eq_true_iff]
    exact Iff.rfl
  rw [live, check]
  simp only [TrustedKeys.contains, decide_eq_true_iff]
  by_cases known : c.issuer ∈ trusted.keys
  · by_cases expired : c.isExpiredAt now = true
    · simp [known, expired]
    · simp [known, expired]
  · simp [known]

/-- The octets are this certificate, with a signature that the key of its own issuer accepts. -/
def IsGenuine (c : Certificate π) (bytes : Bytes) : Prop :=
  ∃ frame, Frame.ofBytes bytes = .ok frame ∧ frame.value = c ∧
    c.issuer.verify frame.signed frame.signature = true

theorem IsGenuine.unique {bytes : Bytes} {c c' : Certificate π} (genuine : c.IsGenuine bytes)
    (genuine' : c'.IsGenuine bytes) : c = c' := by
  obtain ⟨frame, taken, rfl, -⟩ := genuine
  obtain ⟨frame', taken', rfl, -⟩ := genuine'
  rw [taken] at taken'
  cases taken'
  rfl

theorem openSelfNamed_eq_ok_iff {bytes : Bytes} {c : Certificate π} :
    openSelfNamed bytes = .ok c ↔ c.IsGenuine bytes := by
  unfold openSelfNamed IsGenuine
  rw [map_eq_ok_iff]
  simp only [openBy_eq_ok_iff_frame, Frame.verify]
  constructor
  · rintro ⟨verified, ⟨frame, taken, accepted⟩, rfl⟩
    split at accepted
    · cases accepted
      exact ⟨frame, taken, rfl, ‹_›⟩
    · contradiction
  · rintro ⟨frame, taken, rfl, accepted⟩
    exact ⟨_, ⟨frame, taken, if_pos accepted⟩, rfl⟩

theorem validate_eq_ok_iff_isGenuine {trusted : TrustedKeys} {bytes : Bytes} {now : Instant}
    {c : Certificate π} :
    validate trusted bytes now = .ok c ↔
      c.IsGenuine bytes ∧ c.issuer ∈ trusted.keys ∧ now ≤ c.expiresAt := by
  unfold validate
  simp only [bind_eq_ok_iff, mapError_eq_ok_iff, pure_eq_ok_iff, openSelfNamed_eq_ok_iff,
    check_eq_ok_iff]
  constructor
  · rintro ⟨c, genuine, -, acceptable, rfl⟩
    exact ⟨genuine, acceptable⟩
  · rintro ⟨genuine, acceptable⟩
    exact ⟨c, genuine, (), acceptable, rfl⟩

variable [Canonical π]

theorem isGenuine_iff {bytes : Bytes} {c : Certificate π} :
    c.IsGenuine bytes ↔ c.IsReadable ∧ c.IsSealedAs bytes := by
  unfold IsGenuine IsSealedAs
  simp only [Frame.ofBytes_eq_ok_iff, signatureField_eq]
  constructor
  · rintro ⟨⟨_, content, signature⟩, ⟨readable, wrote, same⟩, rfl, genuine⟩
    exact ⟨readable, content, signature, wrote, same, genuine⟩
  · rintro ⟨readable, content, signature, wrote, same, genuine⟩
    exact ⟨⟨c, content, signature⟩, ⟨readable, wrote, same⟩, rfl, genuine⟩

/-- What octets seal is one certificate. -/
theorem isSealedAs_unique {bytes : Bytes} {c c' : Certificate π} (readable : c.IsReadable)
    (readable' : c'.IsReadable) (sealed_as : c.IsSealedAs bytes) (sealed_as' : c'.IsSealedAs bytes) :
    c = c' :=
  (isGenuine_iff.mpr ⟨readable, sealed_as⟩).unique (isGenuine_iff.mpr ⟨readable', sealed_as'⟩)

theorem validate_eq_ok_iff {trusted : TrustedKeys} {bytes : Bytes} {now : Instant}
    {c : Certificate π} :
    validate trusted bytes now = .ok c ↔
      c.IsReadable ∧ c.IsSealedAs bytes ∧ c.issuer ∈ trusted.keys ∧ now ≤ c.expiresAt := by
  rw [validate_eq_ok_iff_isGenuine, isGenuine_iff, and_assoc]

end Certificate
end CertifiedAccess
