import CertifiedAccess.Proofs.Certificate.Validity
import CertifiedAccess.Proofs.Timeline
import CertifiedAccess.Proofs.Wire.Sealing

/-!
What validation discloses. Octets that cannot be read, or whose signature is not genuine, get the same answer
from everybody at any time. All others say one certificate, and only for these do trust and time matter: more
trusted keys and an earlier time never turn an acceptance into a refusal, and no trust makes up for a
signature.
-/
namespace CertifiedAccess

namespace TrustedKeys

theorem mem_insert_iff {trusted : TrustedKeys} {key other : PublicKey} :
    other ∈ (trusted.insert key).keys ↔ other ∈ trusted.keys ∨ other = key := by
  unfold insert
  split
  · rename_i known
    constructor
    · exact .inl
    · rintro (there | rfl)
      · exact there
      · exact known
  · simp

theorem mem_foldl_insert_iff {added : List PublicKey} {trusted : TrustedKeys} {key : PublicKey} :
    key ∈ (added.foldl insert trusted).keys ↔ key ∈ trusted.keys ∨ key ∈ added := by
  induction added generalizing trusted with
  | nil => simp
  | cons first rest ih =>
    rw [List.foldl_cons, ih, mem_insert_iff, List.mem_cons, or_assoc]

end TrustedKeys

namespace Certificate
open Wire

section
variable [SignatureScheme] {π : Type} [Codec π] {bytes : Bytes} {c : Certificate π}
  {trusted : TrustedKeys} {now : Instant}

theorem validate_of_isGenuine (genuine : c.IsGenuine bytes) (trusted : TrustedKeys) (now : Instant) :
    validate trusted bytes now =
      ((c.check trusted now).mapError CertificateError.rejected).map fun _ => c := by
  rw [validate, openSelfNamed_eq_ok_iff.mpr genuine]
  change ((c.check trusted now).mapError CertificateError.rejected >>= fun _ => pure c) = _
  cases c.check trusted now with
  | ok u => rfl
  | error reason => rfl

/-- An error of the wire form is told before anything is asked about trust and time. -/
theorem validate_eq_wire_iff {e : WireError} :
    (validate trusted bytes now : Except CertificateError (Certificate π)) = .error (.wire e) ↔
      (openSelfNamed bytes : Except WireError (Certificate π)) = .error e := by
  cases opened : (openSelfNamed bytes : Except WireError (Certificate π)) with
  | error e' =>
    have told : (validate trusted bytes now : Except _ (Certificate π)) = .error (.wire e') := by
      rw [validate, opened]
      rfl
    simp [told]
  | ok c =>
    rw [validate_of_isGenuine (openSelfNamed_eq_ok_iff.mp opened)]
    cases c.check trusted now with
    | ok u => exact iff_of_false nofun nofun
    | error reason => exact iff_of_false nofun nofun

omit [SignatureScheme] [Codec π] in
theorem check_eq_error_iff {reason : Rejection} :
    c.check trusted now = .error reason ↔
      c.issuer ∉ trusted.keys ∧ reason = .untrustedIssuer ∨
        c.issuer ∈ trusted.keys ∧ c.expiresAt < now ∧ reason = .expired c.expiresAt now := by
  unfold check TrustedKeys.contains isExpiredAt
  by_cases known : c.issuer ∈ trusted.keys
  · by_cases late : c.expiresAt < now
    · simp [known, late, eq_comm]
    · simp [known, late]
  · simp [known, eq_comm]

/-- The answer for a genuine certificate: its issuer is looked for first, then its expiry is. -/
theorem IsGenuine.verdict (genuine : c.IsGenuine bytes) (trusted : TrustedKeys) (now : Instant) :
    (c.issuer ∉ trusted.keys →
      (validate trusted bytes now : Except _ (Certificate π)) =
        .error (.rejected .untrustedIssuer)) ∧
    (c.issuer ∈ trusted.keys → c.expiresAt < now →
      (validate trusted bytes now : Except _ (Certificate π)) =
        .error (.rejected (.expired c.expiresAt now))) ∧
    (c.issuer ∈ trusted.keys → now ≤ c.expiresAt → validate trusted bytes now = .ok c) := by
  rw [validate_of_isGenuine genuine]
  refine ⟨fun unknown => ?_, fun known late => ?_, fun known live => ?_⟩
  · rw [check_eq_error_iff.mpr (.inl ⟨unknown, rfl⟩)]
    rfl
  · rw [check_eq_error_iff.mpr (.inr ⟨known, late, rfl⟩)]
    rfl
  · rw [check_eq_ok_iff (u := ()) |>.mpr ⟨known, live⟩]
    rfl

/-- An acceptance stands under more trusted keys and at an earlier time. -/
theorem validate_mono {trusted' : TrustedKeys} {now' : Instant} (more : trusted.keys ⊆ trusted'.keys)
    (upto : now' ≤ now) (accepted : validate trusted bytes now = .ok c) :
    validate trusted' bytes now' = .ok c := by
  rw [validate_eq_ok_iff_isGenuine] at *
  obtain ⟨genuine, known, live⟩ := accepted
  exact ⟨genuine, more known, Instant.le_trans upto live⟩

/-- What fails in the wire form fails so for everybody at any time. Other octets are one genuine
certificate, whoever asks and whenever, and it is refused for its issuer, then for its expiry, and else
accepted. So acceptance stands under more trusted keys and at an earlier time, and no keys that come to be
trusted make up for a signature that is not genuine. -/
theorem validate_discloses (bytes : Bytes) :
    (∀ trusted trusted' now now' e,
      (validate trusted bytes now : Except _ (Certificate π)) = .error (.wire e) →
      (validate trusted' bytes now' : Except _ (Certificate π)) = .error (.wire e)) ∧
    (∀ trusted now,
      (∀ e, (validate trusted bytes now : Except _ (Certificate π)) ≠ .error (.wire e)) →
      ∃! c : Certificate π, c.IsGenuine bytes ∧ ∀ trusted' now',
        (c.issuer ∉ trusted'.keys →
          (validate trusted' bytes now' : Except _ (Certificate π)) =
            .error (.rejected .untrustedIssuer)) ∧
        (c.issuer ∈ trusted'.keys → c.expiresAt < now' →
          (validate trusted' bytes now' : Except _ (Certificate π)) =
            .error (.rejected (.expired c.expiresAt now'))) ∧
        (c.issuer ∈ trusted'.keys → now' ≤ c.expiresAt → validate trusted' bytes now' = .ok c)) ∧
    (∀ trusted trusted' now now' (c : Certificate π), trusted.keys ⊆ trusted'.keys → now' ≤ now →
      validate trusted bytes now = .ok c → validate trusted' bytes now' = .ok c) ∧
    ∀ trusted (added : List PublicKey) now now' (c : Certificate π),
      (now' ≤ now → validate trusted bytes now = .ok c →
        validate (added.foldl TrustedKeys.insert trusted) bytes now' = .ok c) ∧
      ((validate trusted bytes now : Except _ (Certificate π)) = .error (.wire .invalidSignature) →
        validate (added.foldl TrustedKeys.insert trusted) bytes now' ≠ .ok c) := by
  have everywhere (trusted trusted' : TrustedKeys) (now now' : Instant) (e : WireError)
      (failed : (validate trusted bytes now : Except _ (Certificate π)) = .error (.wire e)) :
      (validate trusted' bytes now' : Except _ (Certificate π)) = .error (.wire e) :=
    validate_eq_wire_iff.mpr (validate_eq_wire_iff.mp failed)
  refine ⟨everywhere, ?_, ?_, ?_⟩
  · intro trusted now readable
    cases opened : (openSelfNamed bytes : Except WireError (Certificate π)) with
    | error e => exact absurd (validate_eq_wire_iff.mpr opened) (readable e)
    | ok c =>
      have genuine := openSelfNamed_eq_ok_iff.mp opened
      exact ⟨c, ⟨genuine, genuine.verdict⟩, fun other said => said.1.unique genuine⟩
  · intro trusted trusted' now now' c more upto
    exact validate_mono more upto
  · intro trusted added now now' c
    have more : trusted.keys ⊆ (added.foldl TrustedKeys.insert trusted).keys :=
      fun _ there => TrustedKeys.mem_foldl_insert_iff.mpr (.inl there)
    refine ⟨validate_mono more, fun forged accepted => ?_⟩
    rw [everywhere _ _ _ _ _ forged] at accepted
    contradiction

end
end Certificate

/-! The sealed note, seen by somebody who trusts nobody and by somebody who trusts its issuer, when it is just
about to expire. -/
namespace Wire.SealedNote
open Certificate

theorem validate_note :
    validate .none sealedNote Endorsement.expiry =
        (.error (.rejected .untrustedIssuer) : Except _ (Certificate String)) ∧
      validate (.ofList [issuer.publicKey]) sealedNote Endorsement.expiry = .ok note := by
  have accepts : issuer.publicKey.verify content (issuer.sign content) = true := by decide +kernel
  have taken : Frame.ofBytes (α := Certificate String) sealedNote =
    .ok ⟨note, content, issuer.sign content⟩ := (Schema.seals_iff_frame (s := schema)).mp seals_note
  have genuine : IsGenuine (π := String) note sealedNote := ⟨_, taken, rfl, accepts⟩
  have unknown : note.issuer ∉ TrustedKeys.none.keys := List.not_mem_nil
  have known : note.issuer ∈ (TrustedKeys.ofList [issuer.publicKey]).keys :=
    TrustedKeys.mem_foldl_insert_iff.mpr (.inr List.mem_cons_self)
  have live : Endorsement.expiry ≤ note.expiresAt := by decide
  have refused := (genuine.verdict .none Endorsement.expiry).1 unknown
  obtain ⟨-, said, -, -⟩ := validate_discloses (π := String) sealedNote
  obtain ⟨c, ⟨genuine', verdicts⟩, -⟩ := said .none Endorsement.expiry (by rw [refused]; nofun)
  rw [genuine'.unique genuine] at verdicts
  exact ⟨refused, (verdicts _ _).2.2 known live⟩

end Wire.SealedNote
end CertifiedAccess
