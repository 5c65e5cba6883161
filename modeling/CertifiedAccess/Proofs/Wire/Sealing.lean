import CertifiedAccess.Proofs.Wire.Opening
import CertifiedAccess.Proofs.Wire.Schema

/-!
The grammar of sealed values. Octets open as a value only if they are its wire form, then the length, the
tag and the octets of a signature that the chosen key accepts over that form; all other octets are refused,
and no octets can be taken apart in two ways.
-/
namespace CertifiedAccess.Wire

namespace Schema
variable [SignatureScheme] {s : Schema}

/-- The octets are a value's wire form, then 65 in four octets, the tag, and the signature's 64 octets. -/
structure Seals (value : s.Value) (content : Bytes) (signature : Signature) (bytes : Bytes) : Prop where
  legible : s.Legible value
  written : Codec.encode value = .ok content
  signed : bytes = content ++ (Bytes.bigEndian 4 65 ++ 1 :: signature.raw)

theorem seals_iff_frame {value : s.Value} {content : Bytes} {signature : Signature} {bytes : Bytes} :
    Seals value content signature bytes ↔ Frame.ofBytes bytes = .ok ⟨value, content, signature⟩ := by
  rw [Frame.ofBytes_eq_ok_iff, readable_iff_legible, signatureField_eq]
  constructor
  · rintro ⟨legible, written, signed⟩
    exact ⟨legible, written, signed⟩
  · rintro ⟨legible, written, signed⟩
    exact ⟨legible, written, signed⟩

/-- Octets are taken apart in one way at most. -/
theorem Seals.unique {value value' : s.Value} {content content' : Bytes}
    {signature signature' : Signature} {bytes : Bytes} (sealed_as : Seals value content signature bytes)
    (sealed_as' : Seals value' content' signature' bytes) :
    value = value' ∧ content = content' ∧ signature = signature' := by
  rw [seals_iff_frame] at sealed_as sealed_as'
  rw [sealed_as', Except.ok.injEq, Frame.mk.injEq] at sealed_as
  exact ⟨sealed_as.1.symm, sealed_as.2.1.symm, sealed_as.2.2.symm⟩

/-- Octets open exactly if they seal a value with a signature that the key chosen for it accepts over its
wire form; they open as that value and that form, and seal no other value and no other signature. -/
theorem openBy_exact (s : Schema) (bytes : Bytes) (choose : s.Value → PublicKey) :
    (∀ verified, openBy bytes choose = .ok verified ↔
      ∃ value content signature, Seals value content signature bytes ∧
        (choose value).verify content signature = true ∧ verified = ⟨value, content⟩) ∧
    ∀ (value value' : s.Value) (content content' : Bytes) (signature signature' : Signature),
      Seals value content signature bytes → Seals value' content' signature' bytes →
        value = value' ∧ signature = signature' := by
  constructor
  · intro verified
    simp only [openBy_eq_ok_iff, readable_iff_legible, signatureField_eq]
    constructor
    · rintro ⟨legible, written, signature, signed, genuine⟩
      exact ⟨_, _, signature, ⟨legible, written, signed⟩, genuine, rfl⟩
    · rintro ⟨value, content, signature, ⟨legible, written, signed⟩, genuine, rfl⟩
      exact ⟨legible, written, signature, signed, genuine⟩
  · intro value value' content content' signature signature' sealed_as sealed_as'
    obtain ⟨same, -, same'⟩ := sealed_as.unique sealed_as'
    exact ⟨same, same'⟩

end Schema

/-! A certificate for a text, opened with the key that it names as its issuer. -/
namespace SealedNote
open Schema

def issuer : PrivateKey := ⟨List.replicate 32 5, by decide⟩

def schema : Schema := .certificate .text

def note : schema.Value :=
  Certificate.make issuer.publicKey issuer.publicKey Endorsement.expiry RoleMask.empty "note"

def content : Bytes :=
  match Codec.encode note with
  | .ok octets => octets
  | .error _ => []

def sealedNote : Bytes := content ++ (Bytes.bigEndian 4 65 ++ 1 :: (issuer.sign content).raw)

theorem seals_note : Seals note content (issuer.sign content) sealedNote where
  legible := by
    have denotes : SignatureScheme.denotes issuer.publicKey = true := by decide +kernel
    have ordinary : Endorsement.expiry.isLeap = false ∧
        Endorsement.expiry.toMillisecond = Endorsement.expiry := by decide
    exact ⟨denotes, denotes, ordinary.1, ordinary.2, trivial⟩
  written := by decide +kernel
  signed := rfl

theorem openBy_note :
    openBy sealedNote (Certificate.issuer (π := String)) = .ok ⟨note, content⟩ ∧
      ∀ value content' signature, Seals value content' signature sealedNote →
        value = note ∧ signature = issuer.sign content := by
  have genuine : issuer.publicKey.verify content (issuer.sign content) = true := by decide +kernel
  obtain ⟨opens, unique⟩ := schema.openBy_exact sealedNote Certificate.issuer
  exact ⟨(opens _).mpr ⟨note, content, _, seals_note, genuine, rfl⟩,
    fun _ _ _ sealed_as => unique _ _ _ _ _ _ sealed_as seals_note⟩

end SealedNote
end CertifiedAccess.Wire
