import CertifiedAccess.Proofs.Certificate.ReadBack
import CertifiedAccess.Proofs.Roles

/-!
Certificates that are not granted. There are three reasons not to grant and seal one: its expiry cannot be
written, a role has no number below 64, or the payload has no wire form; of several the first is told.
-/
namespace CertifiedAccess.Certificate
open Wire

section
variable {ρ π : Type} [Role ρ] [Codec π] {roles : List ρ} {payload : π} {validity : Span}
  {now : Instant}

/-- Why no certificate with these roles and this payload is granted and sealed. -/
inductive Withheld (roles : List ρ) (payload : π) (validity : Span) (now : Instant) :
    CertificateError → Prop where
  | unreachable (late : now.add? validity = none) :
    Withheld roles payload validity now (.expiryOutOfRange now validity)
  | strange {later : Instant} {id : UInt8} (moved : now.add? validity = some later)
    (first : RoleMask.firstStrange? (roles.map Role.id) = some id) :
    Withheld roles payload validity now (.role (.outOfRange id))
  | unwritten {later : Instant} {mask : RoleMask} {e : WireError}
    (moved : now.add? validity = some later) (encoded : RoleMask.encode roles = .ok mask)
    (refused : Codec.encode payload = .error e) :
    Withheld roles payload validity now (.wire (.signingFailed e.message))

theorem exists_withheld_iff :
    (∃ e, Withheld roles payload validity now e) ↔ now.add? validity = none ∨
      (∃ role ∈ roles, maxRoles ≤ (Role.id role).toNat) ∨ ∃ e, Codec.encode payload = .error e := by
  rw [← RoleMask.exists_encode_error_iff]
  constructor
  · rintro ⟨_, late | ⟨-, first⟩ | ⟨-, -, refused⟩⟩
    · exact .inl late
    · exact .inr (.inl ⟨_, RoleMask.encode_eq_error_iff.mpr ⟨_, first, rfl⟩⟩)
    · exact .inr (.inr ⟨_, refused⟩)
  · intro reasons
    cases moved : now.add? validity with
    | none => exact ⟨_, .unreachable moved⟩
    | some later =>
      cases encoded : RoleMask.encode roles with
      | error e =>
        obtain ⟨id, first, -⟩ := RoleMask.encode_eq_error_iff.mp encoded
        exact ⟨_, .strange moved first⟩
      | ok mask =>
        obtain ⟨e, refused⟩ : ∃ e, Codec.encode payload = .error e := by
          simpa [moved, encoded] using reasons
        exact ⟨_, .unwritten moved encoded refused⟩

omit [Codec π] in
theorem grant_eq_ok_iff [SignatureScheme] {issuer : PrivateKey} {client : PublicKey}
    {c : Certificate π} :
    grant issuer client roles payload validity now = .ok c ↔
      ∃ later mask, now.add? validity = some later ∧ RoleMask.encode roles = .ok mask ∧
        c = make issuer.publicKey client later mask payload := by
  unfold grant
  cases moved : now.add? validity with
  | none =>
    change Except.error _ = _ ↔ _
    simp
  | some later =>
    simp only [bind_eq_ok_iff, mapError_eq_ok_iff, pure_eq_ok_iff, Option.some.injEq]
    constructor
    · rintro ⟨mask, encoded, rfl⟩
      exact ⟨later, mask, rfl, encoded, rfl⟩
    · rintro ⟨_, mask, rfl, encoded, rfl⟩
      exact ⟨mask, encoded, rfl⟩

omit [Codec π] in
theorem grant_eq_error_iff [SignatureScheme] {issuer : PrivateKey} {client : PublicKey}
    {e : CertificateError} :
    grant issuer client roles payload validity now = .error e ↔
      now.add? validity = none ∧ e = .expiryOutOfRange now validity ∨
        ∃ later id, now.add? validity = some later ∧
          RoleMask.firstStrange? (roles.map Role.id) = some id ∧ e = .role (.outOfRange id) := by
  unfold grant
  cases now.add? validity with
  | none =>
    change Except.error _ = _ ↔ _
    simp [eq_comm]
  | some later =>
    simp only [bind_pure_eq_error_iff, mapError_eq_error_iff, RoleMask.encode_eq_error_iff]
    constructor
    · rintro ⟨_, ⟨id, first, rfl⟩, rfl⟩
      exact .inr ⟨later, id, rfl, first, rfl⟩
    · rintro (⟨impossible, -⟩ | ⟨_, id, -, first, rfl⟩)
      · contradiction
      · exact ⟨_, ⟨id, first, rfl⟩, rfl⟩

/-- Keys always fit in their fields, so what cannot be written is the payload. -/
theorem encode_eq_error_iff {c : Certificate π} {e : WireError} :
    c.encode = .error e ↔ Codec.encode c.payload = .error e := by
  cases written : (Codec.encode c.payload : Except WireError Bytes) with
  | ok content =>
    obtain ⟨whole, wrote⟩ := c.exists_encode written
    rw [wrote]
    exact iff_of_false nofun nofun
  | error e' =>
    unfold encode
    rw [field_encode_key, field_encode_key, written]
    exact Iff.rfl

theorem sign_eq_error_iff [SignatureScheme] {c : Certificate π} {issuer : PrivateKey} {e : WireError}
    (own : issuer.publicKey = c.issuer) :
    c.sign issuer = .error e ↔
      ∃ cause, Codec.encode c.payload = .error cause ∧ e = .signingFailed cause.message := by
  simp only [← encode_eq_error_iff]
  rw [sign, if_pos own, sealValue_eq_error_iff]
  exact Iff.rfl

/-- What is granted and then sealed is withheld for these reasons, whatever is made of its octets. -/
theorem grant_bind_eq_error_iff [SignatureScheme] {α : Type} {issuer : PrivateKey} {client : PublicKey}
    {rest : Certificate π → Except CertificateError α} {e : CertificateError}
    (seals : ∀ c, rest c = .error e ↔ ∃ cause, c.sign issuer = .error cause ∧ .wire cause = e) :
    (grant issuer client roles payload validity now >>= rest) = .error e ↔
      Withheld roles payload validity now e := by
  simp only [bind_eq_error_iff, grant_eq_error_iff, grant_eq_ok_iff, seals]
  constructor
  · rintro ((⟨late, rfl⟩ | ⟨later, id, moved, first, rfl⟩) |
      ⟨_, ⟨later, mask, moved, encoded, rfl⟩, _, unsigned, rfl⟩)
    · exact .unreachable late
    · exact .strange moved first
    · obtain ⟨cause, refused, rfl⟩ := (sign_eq_error_iff rfl).mp unsigned
      exact .unwritten moved encoded refused
  · rintro (late | ⟨moved, first⟩ | ⟨moved, encoded, refused⟩)
    · exact .inl (.inl ⟨late, rfl⟩)
    · exact .inl (.inr ⟨_, _, moved, first, rfl⟩)
    · refine .inr ⟨_, ⟨_, _, moved, encoded, rfl⟩, _, ?_, rfl⟩
      exact (sign_eq_error_iff rfl).mpr ⟨_, refused, rfl⟩

end
end CertifiedAccess.Certificate
