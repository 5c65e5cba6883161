import CertifiedAccess.Certificate.Basic
import CertifiedAccess.Proofs.Outcomes
import CertifiedAccess.Proofs.Wire.Primitive

/-!
Tagged keys and signatures: reading takes exactly the tagged form of a key that denotes one, and of any
signature.
-/
namespace CertifiedAccess

theorem Tagged.decode_eq_ok_iff {octets : Bytes} {tagged : Tagged} :
    Tagged.decode octets = .ok tagged ↔ octets = tagged.encode := by
  obtain ⟨mechanism, payload⟩ := tagged
  cases mechanism
  cases octets with
  | nil => simp [Tagged.decode, Tagged.encode]
  | cons tag rest =>
    by_cases known : tag = 1
    · simp [Tagged.decode, Tagged.encode, Mechanism.ofTag, Mechanism.tag, known, bind, Except.bind]
    · simp [Tagged.decode, Tagged.encode, Mechanism.ofTag, Mechanism.tag, known, bind, Except.bind]

theorem Signature.ofTagged_eq_ok_iff {tagged : Tagged} {signature : Signature} :
    Signature.ofTagged tagged = .ok signature ↔ tagged = signature.toTagged := by
  obtain ⟨⟨⟩, payload⟩ := tagged
  obtain ⟨raw, length_raw⟩ := signature
  simp only [Signature.ofTagged, liftKeyError, mapError_eq_ok_iff, Signature.ofBytes,
    Signature.toTagged, Signature.mechanism, Tagged.mk.injEq, true_and]
  constructor
  · intro h
    split at h
    · cases h
      rfl
    · contradiction
  · rintro rfl
    rw [dif_pos length_raw]

theorem Signature.ofTagged_eq {tagged : Tagged} :
    Signature.ofTagged tagged =
      if size : tagged.payload.length = 64 then .ok ⟨tagged.payload, size⟩
      else .error (.invalidKey (.invalidLength 64 tagged.payload.length)) := by
  obtain ⟨⟨⟩, payload⟩ := tagged
  unfold Signature.ofTagged Signature.ofBytes
  by_cases size : payload.length = 64
  · simp only [size, dite_true]
    rfl
  · simp only [size, dite_false]
    rfl

/-- A key always fits in its field. -/
theorem Wire.field_encode_key (key : PublicKey) :
    field key.toTagged.encode =
      .ok (Bytes.bigEndian 4 key.toTagged.encode.length ++ key.toTagged.encode) := by
  refine field_eq_ok_iff.mpr ⟨?_, rfl⟩
  simp [PublicKey.toTagged, Tagged.encode, key.length_raw, maxFieldLength]

theorem Wire.length_of_field_key {key : PublicKey} {written : Bytes}
    (wrote : field key.toTagged.encode = .ok written) : written.length = 37 := by
  obtain rfl := (field_eq_ok_iff.mp wrote).2
  simp [PublicKey.toTagged, Tagged.encode, key.length_raw]

section
variable [SignatureScheme]

theorem PublicKey.ofTagged_eq_ok_iff {tagged : Tagged} {key : PublicKey} :
    PublicKey.ofTagged tagged = .ok key ↔
      SignatureScheme.denotes key = true ∧ tagged = key.toTagged := by
  obtain ⟨⟨⟩, payload⟩ := tagged
  obtain ⟨raw, length_raw⟩ := key
  simp only [PublicKey.ofTagged, liftKeyError, mapError_eq_ok_iff, PublicKey.ofBytes,
    PublicKey.toTagged, PublicKey.mechanism, Tagged.mk.injEq, true_and]
  constructor
  · intro h
    split at h
    · split at h
      · cases h
        exact ⟨‹_›, rfl⟩
      · contradiction
    · contradiction
  · rintro ⟨denotes, rfl⟩
    rw [dif_pos length_raw, if_pos denotes]

end

namespace Wire.Read.Accepts

theorem tagged :
    Accepts Read.tagged fun value bytes => Wire.field value.encode = .ok bytes := by
  have both := Accepts.field.bind_nil fun octets => Accepts.ofExcept (Tagged.decode octets)
  refine both.congr fun value bytes => ?_
  simp only [Tagged.decode_eq_ok_iff]
  constructor
  · rintro ⟨_, written, rfl⟩
    exact written
  · intro written
    exact ⟨_, written, rfl⟩

variable [SignatureScheme]

theorem readKey :
    Accepts Certificate.readKey fun key bytes =>
      SignatureScheme.denotes key = true ∧ Wire.field key.toTagged.encode = .ok bytes := by
  have both := Accepts.tagged.bind_nil fun octets => Accepts.ofExcept (PublicKey.ofTagged octets)
  refine both.congr fun value bytes => ?_
  simp only [PublicKey.ofTagged_eq_ok_iff]
  constructor
  · rintro ⟨_, written, denotes, rfl⟩
    exact ⟨denotes, written⟩
  · rintro ⟨denotes, written⟩
    exact ⟨_, written, denotes, rfl⟩

end Wire.Read.Accepts
end CertifiedAccess
