import CertifiedAccess.Proofs.Wire.Canonical
import CertifiedAccess.Proofs.Wire.Tagged
import CertifiedAccess.Wire.Sealed

/-!
Opening sealed values. The octets that open are a value's wire form followed by the field of a signature
that the chosen key accepts over that form, so the value that is used is always the one that was signed.
-/
namespace CertifiedAccess.Wire

theorem length_encode_signature (signature : Signature) :
    signature.toTagged.encode.length = 65 := by
  simp [Signature.toTagged, Tagged.encode, signature.length_raw]

theorem field_encode_signature (signature : Signature) :
    field signature.toTagged.encode = .ok (signatureField signature) := by
  refine field_eq_ok_iff.mpr ⟨?_, rfl⟩
  rw [length_encode_signature]
  decide

theorem length_signatureField (signature : Signature) : (signatureField signature).length = 69 := by
  rw [signatureField, List.length_append, Bytes.length_bigEndian, length_encode_signature]

namespace Read

theorem Accepts.signature :
    Accepts (do Read.ofExcept (Signature.ofTagged (← Read.tagged)))
      fun value bytes => bytes = signatureField value := by
  have both := Accepts.tagged.bind_nil fun octets => Accepts.ofExcept (Signature.ofTagged octets)
  refine both.congr fun value bytes => ?_
  simp only [Signature.ofTagged_eq_ok_iff]
  constructor
  · rintro ⟨_, wrote, rfl⟩
    exact (field_eq_ok_iff.mp wrote).2
  · rintro rfl
    exact ⟨_, field_encode_signature value, rfl⟩

theorem signature_eq_ok_iff {r next : Reader} {signature : Signature} :
    (∃ tagged middle, Read.tagged r = .ok tagged middle ∧
        Read.ofExcept (Signature.ofTagged tagged) middle = .ok signature next) ↔
      r.Advances (signatureField signature) next := by
  rw [← bind_eq_ok_iff (f := fun tagged => Read.ofExcept (Signature.ofTagged tagged)),
    Accepts.signature r signature next]
  simp

theorem setMark_eq_ok_iff {r next : Reader} {u : Unit} :
    setMark r = .ok u next ↔ next = { r with mark := r.position } := by
  change EStateM.Result.ok () { r with mark := r.position } = _ ↔ _
  simp [eq_comm]

theorem toMark_eq_ok_iff {r next : Reader} {u : Unit} :
    toMark r = .ok u next ↔ next = { r with position := r.mark } := by
  change EStateM.Result.ok () { r with position := r.mark } = _ ↔ _
  simp [eq_comm]

theorem get_eq_ok_iff {r next r' : Reader} : (get : Read Reader) r = .ok r' next ↔ r' = r ∧ next = r := by
  change EStateM.Result.ok r r = _ ↔ _
  simp [eq_comm]

theorem pure_eq_ok_iff {α : Type} {a b : α} {r next : Reader} :
    (pure a : Read α) r = .ok b next ↔ b = a ∧ next = r := by
  change EStateM.Result.ok a r = _ ↔ _
  simp [eq_comm]

theorem finish_eq (r : Reader) :
    finish r = if r.remaining = 0 then .ok () r else .error (.trailingBytes r.remaining) r := by
  change (if r.remaining ≠ 0 then throw (.trailingBytes r.remaining) else pure () : Read Unit) r = _
  by_cases empty : r.remaining = 0
  · rw [if_neg (not_not.mpr empty), if_pos empty]
    rfl
  · rw [if_pos empty, if_neg empty]
    rfl

theorem finish_eq_ok_iff {r next : Reader} {u : Unit} :
    finish r = .ok u next ↔ r.remaining = 0 ∧ next = r := by
  rw [finish_eq]
  by_cases empty : r.remaining = 0
  · simp [empty, eq_comm]
  · simp [empty]

theorem run_eq_ok_iff {α : Type} {read : Read α} {bytes : Bytes} {value : α} :
    read.run bytes = .ok value ↔ ∃ next, read (Reader.ofBytes bytes) = .ok value next := by
  unfold Read.run
  cases read (Reader.ofBytes bytes) with
  | ok a next => simp
  | error e next => simp

theorem run_of_error {α : Type} {read : Read α} {bytes : Bytes} {e : WireError}
    (failed : ∃ stop, read (.ofBytes bytes) = .error e stop) : read.run bytes = .error e := by
  obtain ⟨stop, failed⟩ := failed
  rw [Read.run, failed]

end Read

section
variable {α : Type} [Codec α]

/-- What a frame is put together from, read after read. -/
theorem Frame.ofBytes_eq_ok_iff_reads {bytes : Bytes} {frame : Frame α} :
    Frame.ofBytes bytes = .ok frame ↔ ∃ middle tagged behind last next,
      Codec.decode (Reader.ofBytes bytes) = .ok frame.value middle ∧
        Read.tagged middle = .ok tagged behind ∧
        Read.ofExcept (Signature.ofTagged tagged) behind = .ok frame.signature last ∧
        last.remaining = 0 ∧
        Read.bytes middle.position { last with position := last.mark } = .ok frame.signed next := by
  unfold Frame.ofBytes Frame.read
  rw [Read.run_eq_ok_iff]
  simp only [Read.bind_eq_ok_iff, Read.setMark_eq_ok_iff, Read.get_eq_ok_iff,
    Read.finish_eq_ok_iff, Read.toMark_eq_ok_iff, Read.pure_eq_ok_iff]
  constructor
  · rintro ⟨_, _, _, rfl, _, middle, decoded, _, _, ⟨rfl, rfl⟩, tagged, behind, found, _, last, told,
      _, _, ⟨ended, rfl⟩, _, _, rfl, _, next, again, rfl, -⟩
    exact ⟨_, tagged, behind, _, next, decoded, found, told, ended, again⟩
  · rintro ⟨middle, tagged, behind, last, next, decoded, found, told, ended, again⟩
    exact ⟨next, (), _, rfl, _, middle, decoded, _, _, ⟨rfl, rfl⟩, tagged, behind, found, _, last, told,
      (), _, ⟨ended, rfl⟩, (), _, rfl, _, next, again, rfl, rfl⟩

variable [Canonical α]

/-- Only a readable value's wire form with a signature's field behind it, and nothing more, is a frame. -/
theorem Frame.ofBytes_eq_ok_iff {bytes : Bytes} {frame : Frame α} :
    Frame.ofBytes bytes = .ok frame ↔
      Canonical.Readable frame.value ∧ Codec.encode frame.value = .ok frame.signed ∧
        bytes = frame.signed ++ signatureField frame.signature := by
  rw [Frame.ofBytes_eq_ok_iff_reads]
  constructor
  · rintro ⟨middle, tagged, behind, last, next, decoded, found, told, ended, again⟩
    obtain ⟨content, ⟨readable, wrote⟩, moved⟩ := (Canonical.accepts _ _ _).mp decoded
    have moved' := Read.signature_eq_ok_iff.mp ⟨_, _, found, told⟩
    obtain ⟨whole, rfl⟩ := Reader.Advances.append_iff.mpr ⟨_, moved, moved'⟩
    obtain ⟨stands, rfl⟩ := moved
    obtain ⟨_, ⟨rfl, size⟩, stands', -⟩ := (Read.Accepts.bytes _ _ _ _).mp again
    simp only [Reader.ofBytes, Reader.remaining, List.drop_zero, Nat.zero_add] at *
    -- what is read again from the mark stands where decoding stood, and is as long
    have same : frame.signed = content :=
      (List.prefix_of_prefix_length_le stands' stands (by omega)).eq_of_length size
    subst same
    exact ⟨readable, wrote, (whole.eq_of_length_le (by omega)).symm⟩
  · obtain ⟨value, content, signature⟩ := frame
    rintro ⟨readable, wrote, rfl⟩
    dsimp only at *
    -- the two advances meet where the wire form ends, which fixes every reader on the way
    let start : Reader := ⟨content ++ signatureField signature, 0, 0⟩
    obtain ⟨middle, moved, moved'⟩ := (Reader.Advances.append_iff (r := start)).mp
      ⟨List.prefix_refl _, rfl⟩
    have decoded := (Canonical.accepts _ _ _).mpr ⟨content, ⟨readable, wrote⟩, moved⟩
    obtain ⟨tagged, behind, found, told⟩ := Read.signature_eq_ok_iff.mpr moved'
    have again : Read.bytes content.length start = .ok content ⟨start.input, content.length, 0⟩ :=
      (Read.Accepts.bytes _ _ _ _).mpr ⟨content, ⟨rfl, rfl⟩, List.prefix_append _ _, by simp [start]⟩
    obtain ⟨-, rfl⟩ := moved
    refine ⟨_, tagged, behind, _, ⟨start.input, content.length, 0⟩, decoded, found, told, ?_, ?_⟩
    · simp [Reader.remaining, start]
    · simpa [start] using again

/-- The tag and the signature, with their length of 65 octets in front. -/
theorem signatureField_eq (signature : Signature) :
    signatureField signature = Bytes.bigEndian 4 65 ++ 1 :: signature.raw := by
  rw [signatureField, length_encode_signature]
  rfl

variable [SignatureScheme]

omit [Canonical α] in
/-- What a key seals is the wire form of a value, with the field of its signature over that behind it. -/
theorem sealValue_eq_ok_iff {value : α} {key : PrivateKey} {bytes : Bytes} :
    sealValue value key = .ok bytes ↔ ∃ content, Codec.encode value = .ok content ∧
      bytes = content ++ signatureField (key.sign content) := by
  unfold sealValue
  cases (Codec.encode value : Except WireError Bytes) with
  | ok content => simp [eq_comm]
  | error cause => simp

omit [Canonical α] in
theorem sealValue_eq_error_iff {value : α} {key : PrivateKey} {e : WireError} :
    sealValue value key = .error e ↔
      ∃ cause, Codec.encode value = .error cause ∧ e = .signingFailed cause.message := by
  unfold sealValue
  cases (Codec.encode value : Except WireError Bytes) with
  | ok content => simp
  | error cause => simp [eq_comm]

omit [Canonical α] in
theorem openBy_eq_ok_iff_frame {bytes : Bytes} {choose : α → PublicKey} {verified : Verified α} :
    openBy bytes choose = .ok verified ↔
      ∃ frame : Frame α, Frame.ofBytes bytes = .ok frame ∧
        frame.verify (choose frame.value) = .ok verified := by
  unfold openBy openWith
  cases Frame.ofBytes (α := α) bytes with
  | ok frame => simp
  | error e => simp

/-- Only what the chosen key signed is opened, and only as what it says. -/
theorem openBy_eq_ok_iff {bytes : Bytes} {choose : α → PublicKey} {verified : Verified α} :
    openBy bytes choose = .ok verified ↔
      Canonical.Readable verified.value ∧ Codec.encode verified.value = .ok verified.signed ∧
        ∃ signature, bytes = verified.signed ++ signatureField signature ∧
          (choose verified.value).verify verified.signed signature = true := by
  simp only [openBy_eq_ok_iff_frame, Frame.ofBytes_eq_ok_iff, Frame.verify]
  constructor
  · rintro ⟨frame, ⟨readable, wrote, rfl⟩, genuine⟩
    split at genuine
    · cases genuine
      exact ⟨readable, wrote, frame.signature, rfl, ‹_›⟩
    · contradiction
  · rintro ⟨readable, wrote, signature, rfl, genuine⟩
    exact ⟨⟨verified.value, verified.signed, signature⟩, ⟨readable, wrote, rfl⟩, if_pos genuine⟩

end
end CertifiedAccess.Wire
