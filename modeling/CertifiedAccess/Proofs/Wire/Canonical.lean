import CertifiedAccess.Authority.Account
import CertifiedAccess.Proofs.Outcomes
import CertifiedAccess.Proofs.Wire.Primitive

/-!
Types with a canonical wire form: decoding accepts exactly what encoding gives, wherever it stands. Not
every value of such a type need be readable; all values of the plain payload types are.
-/
namespace CertifiedAccess.Wire

/-- A wire form that is read back exactly, for the values that can be read at all. -/
class Canonical (α : Type) [Codec α] where
  Readable : α → Prop
  accepts : (Codec.decode : Read α).Accepts fun value bytes =>
    Readable value ∧ Codec.encode value = .ok bytes

instance : Canonical Blob where
  Readable _ := True
  accepts := by
    refine (Read.Accepts.map Blob.mk Read.Accepts.field).congr fun value bytes => ?_
    constructor
    · rintro ⟨octets, formed, rfl⟩
      exact ⟨trivial, formed⟩
    · rintro ⟨-, formed⟩
      exact ⟨value.bytes, formed, rfl⟩

instance : Canonical String where
  Readable _ := True
  accepts := Read.Accepts.text.congr fun _ _ => (iff_of_eq (true_and _)).symm

instance : Canonical Unit where
  Readable _ := True
  accepts := by
    refine (Read.Accepts.returned ()).congr fun value bytes => ?_
    simp [Codec.encode, eq_comm]

instance : Canonical AccountPayload where
  Readable _ := True
  accepts := by
    have both := Read.Accepts.text.bind fun userId =>
      Read.Accepts.text.bind fun username =>
        Read.Accepts.returned (AccountPayload.mk userId username)
    refine both.congr fun value bytes => ?_
    simp only [Codec.encode, bind_eq_ok_iff, pure_eq_ok_iff, true_and]
    constructor
    · rintro ⟨userId, first, _, written, ⟨username, second, _, written', ⟨rfl, rfl⟩, rfl⟩, rfl⟩
      exact ⟨first, written, second, written', by rw [List.append_nil]⟩
    · rintro ⟨first, written, second, written', rfl⟩
      exact ⟨_, first, second, written, ⟨_, second, [], written', ⟨rfl, rfl⟩, by simp⟩, rfl⟩

end CertifiedAccess.Wire
