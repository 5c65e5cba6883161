import CertifiedAccess.Proofs.Wire.Failures
import CertifiedAccess.Proofs.Wire.Sealing

/-!
Sealed values that are read without their signature being looked at. Both ways to take a sealed value apart begin
with the value and the tagged octets behind it. They differ only in what they ask of these octets and of the key, so
a value that is read without a look at its signature is the one that would be opened.
-/
namespace CertifiedAccess
open Wire

namespace Wire

/-- A choice that is noted down each time it is made. -/
def noting {α : Type} (choose : α → PublicKey) (value : α) : StateM (List α) PublicKey := do
  modify fun made => made ++ [value]
  return choose value

section
variable {α : Type} [Codec α] [SignatureScheme] {bytes : Bytes} {frame : Frame α} {e : WireError}

theorem openBy_of_frame (taken : Frame.ofBytes bytes = .ok frame) (choose : α → PublicKey) :
    openBy bytes choose = frame.verify (choose frame.value) ∧
      (openWith bytes (noting choose)).run [] = (openBy bytes choose, [frame.value]) := by
  unfold openBy openWith
  rw [taken]
  exact ⟨rfl, rfl⟩

theorem openBy_of_error (failed : Frame.ofBytes (α := α) bytes = .error e) (choose : α → PublicKey) :
    openBy bytes choose = .error e ∧
      (openWith bytes (noting choose)).run [] = (openBy bytes choose, []) := by
  unfold openBy openWith
  rw [failed]
  exact ⟨rfl, rfl⟩

end

namespace Schema
variable [SignatureScheme] {s : Schema}

/-- The octets are a value's wire form, then the field of tagged octets, whatever these are, then the rest. -/
structure Parts (value : s.Value) (content : Bytes) (tagged : Tagged) (rest bytes : Bytes) : Prop where
  legible : s.Legible value
  written : Codec.encode value = .ok content
  framed : ∃ behind, field tagged.encode = .ok behind ∧ bytes = content ++ behind ++ rest

/-- What every sealed value is read as at first. -/
def readParts (s : Schema) : Read (s.Value × Tagged) := do
  let value ← Codec.decode
  let tagged ← Read.tagged
  return (value, tagged)

theorem accepts_readParts (s : Schema) :
    s.readParts.Accepts fun pair bytes => ∃ content behind, s.Legible pair.1 ∧
      Codec.encode pair.1 = .ok content ∧ field pair.2.encode = .ok behind ∧ bytes = content ++ behind := by
  have both := (Canonical.accepts (α := s.Value)).bind fun value =>
    Read.Accepts.tagged.bind fun tagged => Read.Accepts.returned (value, tagged)
  refine both.congr fun pair bytes => ?_
  constructor
  · rintro ⟨value, content, _, ⟨readable, wrote⟩, ⟨tagged, behind, _, framed, ⟨rfl, rfl⟩, rfl⟩, rfl⟩
    refine ⟨content, behind, (s.readable_iff_legible value).mp readable, wrote, framed, ?_⟩
    rw [List.append_nil]
  · rintro ⟨content, behind, legible, wrote, framed, rfl⟩
    refine ⟨pair.1, content, behind, ⟨(s.readable_iff_legible pair.1).mpr legible, wrote⟩, ?_, rfl⟩
    exact ⟨pair.2, behind, [], framed, ⟨rfl, rfl⟩, (List.append_nil behind).symm⟩

theorem failsForGood_readParts (s : Schema) : s.readParts.FailsForGood := by
  refine s.failsForGood.bind Canonical.accepts fun value => ?_
  exact Read.FailsForGood.tagged.bind Read.Accepts.tagged fun tagged => .returned _

theorem readParts_of_error {bytes : Bytes} {e : WireError} {stop : Reader}
    (failed : s.readParts (.ofBytes bytes) = .error e stop) :
    readUnverified (α := s.Value) bytes = .error e ∧ Frame.ofBytes (α := s.Value) bytes = .error e := by
  have start : Read.setMark (.ofBytes bytes) = .ok () (.ofBytes bytes) := rfl
  unfold readParts at failed
  rcases Read.bind_eq_error_iff.mp failed with undecoded | ⟨value, middle, decoded, failed⟩
  · refine ⟨Read.run_of_error ⟨stop, Read.bind_of_error undecoded⟩, Read.run_of_error ⟨stop, ?_⟩⟩
    rw [Frame.read, Read.bind_of_ok start, Read.bind_of_error undecoded]
  · rcases Read.bind_eq_error_iff.mp failed with unfound | ⟨tagged, last, -, failed⟩
    · refine ⟨Read.run_of_error ⟨stop, ?_⟩, Read.run_of_error ⟨stop, ?_⟩⟩
      · rw [Read.bind_of_ok decoded, Read.bind_of_error unfound]
      · have here : (get : Read Reader) middle = .ok middle middle := rfl
        rw [Frame.read, Read.bind_of_ok start, Read.bind_of_ok decoded, Read.bind_of_ok here,
          Read.bind_of_error unfound]
    · contradiction

theorem seals_iff_parts {value : s.Value} {content bytes : Bytes} {signature : Signature} :
    Seals value content signature bytes ↔ Parts value content signature.toTagged [] bytes := by
  constructor
  · rintro ⟨legible, wrote, rfl⟩
    refine ⟨legible, wrote, _, field_encode_signature signature, ?_⟩
    rw [signatureField_eq, List.append_nil]
  · rintro ⟨legible, wrote, behind, framed, rfl⟩
    obtain rfl := Except.ok.inj (framed.symm.trans (field_encode_signature signature))
    exact ⟨legible, wrote, by rw [signatureField_eq, List.append_nil]⟩

namespace Parts
variable {value value' : s.Value} {content content' : Bytes} {tagged tagged' : Tagged}
  {rest rest' bytes : Bytes}

/-- Where reading stands behind the value, and behind the tagged octets. -/
theorem reads (parts : Parts value content tagged rest bytes) : ∃ last : Reader,
    (Codec.decode : Read s.Value) (.ofBytes bytes) = .ok value ⟨bytes, content.length, 0⟩ ∧
      Read.tagged ⟨bytes, content.length, 0⟩ = .ok tagged last ∧ last.remaining = rest.length := by
  obtain ⟨legible, wrote, behind, framed, rfl⟩ := parts
  have readable := (s.readable_iff_legible value).mpr legible
  have whole : (Reader.ofBytes (content ++ behind ++ rest)).Advances (content ++ behind) _ :=
    ⟨List.prefix_append _ _, rfl⟩
  obtain ⟨middle, moved, moved'⟩ := Reader.Advances.append_iff.mp whole
  have decoded := Canonical.accepts.reads ⟨readable, wrote⟩ moved
  have found := Read.Accepts.tagged.reads framed moved'
  obtain ⟨-, rfl⟩ := moved
  simp only [Reader.ofBytes, Nat.zero_add] at decoded found
  refine ⟨_, decoded, found, ?_⟩
  rw [Reader.remaining, List.length_append, List.length_append]
  exact Nat.add_sub_cancel_left _ _

theorem append (parts : Parts value content tagged rest bytes) (more : Bytes) :
    Parts value content tagged (rest ++ more) (bytes ++ more) := by
  obtain ⟨legible, wrote, behind, framed, rfl⟩ := parts
  exact ⟨legible, wrote, behind, framed, List.append_assoc _ _ _⟩

theorem unique (parts : Parts value content tagged rest bytes)
    (parts' : Parts value' content' tagged' rest' bytes) :
    value = value' ∧ content = content' ∧ tagged = tagged' ∧ rest = rest' := by
  obtain ⟨last, decoded, found, -⟩ := parts.reads
  obtain ⟨last', decoded', found', -⟩ := parts'.reads
  obtain ⟨rfl, -⟩ := EStateM.Result.ok.inj (decoded.symm.trans decoded')
  obtain ⟨-, wrote, behind, framed, rfl⟩ := parts
  obtain ⟨-, wrote', behind', framed', whole⟩ := parts'
  obtain rfl := Except.ok.inj (wrote.symm.trans wrote')
  obtain ⟨rfl, -⟩ := EStateM.Result.ok.inj (found.symm.trans found')
  obtain rfl := Except.ok.inj (framed.symm.trans framed')
  exact ⟨rfl, rfl, rfl, List.append_cancel_left whole⟩

/-- Without a look at the signature only what is left over matters. -/
theorem readUnverified (parts : Parts value content tagged rest bytes) :
    Wire.readUnverified bytes =
      if rest = [] then .ok value else .error (.trailingBytes rest.length) := by
  obtain ⟨last, decoded, found, left⟩ := parts.reads
  have finished := Read.finish_eq last
  rw [left] at finished
  by_cases empty : rest = []
  · rw [if_pos (List.length_eq_zero_iff.mpr empty)] at finished
    rw [if_pos empty]
    refine Read.run_eq_ok_iff.mpr ⟨last, ?_⟩
    rw [Read.bind_of_ok decoded, Read.bind_of_ok found, Read.bind_of_ok finished]
    rfl
  · rw [if_neg (mt List.length_eq_zero_iff.mp empty)] at finished
    rw [if_neg empty]
    refine Read.run_of_error ⟨last, ?_⟩
    rw [Read.bind_of_ok decoded, Read.bind_of_ok found, Read.bind_of_error finished]

/-- What a frame still takes when value and tagged octets are read. -/
theorem frame_read (parts : Parts value content tagged rest bytes) :
    ∃ last : Reader, last.remaining = rest.length ∧ Frame.read (.ofBytes bytes) = (do
      let signature ← Read.ofExcept (Signature.ofTagged tagged)
      Read.finish
      Read.toMark
      let signed ← Read.bytes content.length
      return (⟨value, signed, signature⟩ : Frame s.Value)) last := by
  obtain ⟨last, decoded, found, left⟩ := parts.reads
  have start : Read.setMark (.ofBytes bytes) = .ok () (.ofBytes bytes) := rfl
  have here : (get : Read Reader) ⟨bytes, content.length, 0⟩ =
    .ok ⟨bytes, content.length, 0⟩ ⟨bytes, content.length, 0⟩ := rfl
  refine ⟨last, left, ?_⟩
  rw [Frame.read, Read.bind_of_ok start, Read.bind_of_ok decoded, Read.bind_of_ok here,
    Read.bind_of_ok found]

/-- A look at the signature comes before one at what is left over. -/
theorem frame (parts : Parts value content tagged rest bytes) :
    Frame.ofBytes bytes =
      if size : tagged.payload.length = 64 then
        if rest = [] then .ok ⟨value, content, ⟨tagged.payload, size⟩⟩
        else .error (.trailingBytes rest.length)
      else .error (.invalidKey (.invalidLength 64 tagged.payload.length)) := by
  obtain ⟨last, left, reading⟩ := parts.frame_read
  by_cases size : tagged.payload.length = 64
  · have signature : Signature.ofTagged tagged = .ok ⟨tagged.payload, size⟩ :=
      Signature.ofTagged_eq.trans (dif_pos size)
    rw [dif_pos size]
    by_cases empty : rest = []
    · subst empty
      rw [if_pos rfl, ← seals_iff_frame, seals_iff_parts, ← Signature.ofTagged_eq_ok_iff.mp signature]
      exact parts
    · have taken : Read.ofExcept (Signature.ofTagged tagged) last = .ok ⟨tagged.payload, size⟩ last := by
        rw [signature]
        rfl
      have finished := Read.finish_eq last
      rw [left, if_neg (mt List.length_eq_zero_iff.mp empty)] at finished
      rw [if_neg empty]
      refine Read.run_of_error ⟨last, ?_⟩
      rw [reading, Read.bind_of_ok taken, Read.bind_of_error finished]
  · have refused : Read.ofExcept (Signature.ofTagged tagged) last =
        .error (.invalidKey (.invalidLength 64 tagged.payload.length)) last := by
      rw [Signature.ofTagged_eq, dif_neg size]
      rfl
    rw [dif_neg size]
    refine Read.run_of_error ⟨last, ?_⟩
    rw [reading, Read.bind_of_error refused]

theorem openBy (parts : Parts value content tagged rest bytes) (choose : s.Value → PublicKey) :
    Wire.openBy bytes choose =
      if size : tagged.payload.length = 64 then
        if rest = [] then
          if (choose value).verify content ⟨tagged.payload, size⟩ then .ok ⟨value, content⟩
          else .error .invalidSignature
        else .error (.trailingBytes rest.length)
      else .error (.invalidKey (.invalidLength 64 tagged.payload.length)) := by
  have frame := parts.frame
  by_cases size : tagged.payload.length = 64
  · rw [dif_pos size] at frame ⊢
    by_cases empty : rest = []
    · rw [if_pos empty] at frame ⊢
      exact (openBy_of_frame frame choose).1
    · rw [if_neg empty] at frame ⊢
      exact (openBy_of_error frame choose).1
  · rw [dif_neg size] at frame ⊢
    exact (openBy_of_error frame choose).1

end Parts

theorem exists_parts_or_error (s : Schema) (bytes : Bytes) :
    (∃ value content tagged rest, Parts (s := s) value content tagged rest bytes) ∨
      ∃ e stop, s.readParts (.ofBytes bytes) = .error e stop := by
  cases read : s.readParts (.ofBytes bytes) with
  | error e stop => exact .inr ⟨e, stop, rfl⟩
  | ok pair next =>
    obtain ⟨_, ⟨content, behind, legible, wrote, framed, rfl⟩, ⟨rest, whole⟩, -⟩ :=
      (s.accepts_readParts _ _ _).mp read
    exact .inl ⟨pair.1, content, pair.2, rest, legible, wrote, behind, framed, whole.symm⟩

theorem readUnverified_eq_trailingBytes_iff {bytes : Bytes} {count : Nat} :
    readUnverified (α := s.Value) bytes = .error (.trailingBytes count) ↔
      ∃ value content tagged rest, Parts (s := s) value content tagged rest bytes ∧
        rest.length = count ∧ count ≠ 0 := by
  constructor
  · intro failed
    rcases s.exists_parts_or_error bytes with ⟨value, content, tagged, rest, parts⟩ | ⟨e, stop, read⟩
    · rw [parts.readUnverified] at failed
      split at failed
      · contradiction
      · cases failed
        exact ⟨value, content, tagged, rest, parts, rfl, mt List.length_eq_zero_iff.mp ‹_›⟩
    · rw [(readParts_of_error read).1] at failed
      cases failed
      exact absurd read s.failsForGood_readParts.not_trailing
  · rintro ⟨value, content, tagged, rest, parts, rfl, some_left⟩
    rw [parts.readUnverified, if_neg (mt List.length_eq_zero_iff.mpr some_left)]

theorem readUnverified_eq_ok_iff {bytes : Bytes} {value : s.Value} :
    readUnverified bytes = .ok value ↔ ∃ content tagged, Parts value content tagged [] bytes := by
  constructor
  · intro told
    rcases s.exists_parts_or_error bytes with ⟨value', content, tagged, rest, parts⟩ | ⟨e, stop, read⟩
    · rw [parts.readUnverified] at told
      split at told
      · cases told
        subst rest
        exact ⟨content, tagged, parts⟩
      · contradiction
    · rw [(readParts_of_error read).1] at told
      contradiction
  · rintro ⟨content, tagged, parts⟩
    rw [parts.readUnverified, if_pos rfl]

/-- Octets that do not begin with a value and tagged octets are refused with one error by both ways to read them.
Octets left over behind these the one refuses, and so does the other unless it first refuses a signature of
another length. A value that is read without a look at its signature is opened exactly if the signature has 64
octets and the chosen key accepts it. The key is chosen once, for that value, if the octets are a sealed value, and
else never. -/
theorem readers_agree (s : Schema) (bytes : Bytes) (choose : s.Value → PublicKey) :
    (∀ e, readUnverified (α := s.Value) bytes = .error e → (∀ count, e ≠ .trailingBytes count) →
      openBy bytes choose = .error e) ∧
    (∀ count, readUnverified (α := s.Value) bytes = .error (.trailingBytes count) →
      ∃ value content tagged rest, Parts (s := s) value content tagged rest bytes ∧
        rest.length = count ∧ count ≠ 0 ∧
        (tagged.payload.length = 64 → openBy bytes choose = .error (.trailingBytes count)) ∧
        (tagged.payload.length ≠ 64 → openBy bytes choose =
          .error (.invalidKey (.invalidLength 64 tagged.payload.length)))) ∧
    (∀ value, readUnverified bytes = .ok value →
      ∃ content tagged, Parts value content tagged [] bytes ∧
        (tagged.payload.length ≠ 64 → openBy bytes choose =
          .error (.invalidKey (.invalidLength 64 tagged.payload.length))) ∧
        ∀ size : tagged.payload.length = 64, openBy bytes choose =
          if (choose value).verify content ⟨tagged.payload, size⟩ then .ok ⟨value, content⟩
          else .error .invalidSignature) ∧
    (∀ value content signature, Seals value content signature bytes →
      readUnverified bytes = .ok value ∧
        (openWith bytes (noting choose)).run [] = (openBy bytes choose, [value])) ∧
    ((∀ (value : s.Value) content signature, ¬ Seals value content signature bytes) →
      (openWith bytes (noting choose)).run [] = (openBy bytes choose, [])) := by
  refine ⟨?alike, ?left_over, ?read, ?once, ?never⟩
  case alike =>
    intro e failed other
    rcases s.exists_parts_or_error bytes with ⟨value, content, tagged, rest, parts⟩ | ⟨e', stop, read⟩
    · rw [parts.readUnverified] at failed
      split at failed
      · contradiction
      · cases failed
        exact absurd rfl (other _)
    · obtain ⟨failed', unframed⟩ := readParts_of_error read
      rw [failed'] at failed
      cases failed
      exact (openBy_of_error unframed choose).1
  case left_over =>
    intro count failed
    obtain ⟨value, content, tagged, rest, parts, rfl, some_left⟩ :=
      readUnverified_eq_trailingBytes_iff.mp failed
    refine ⟨value, content, tagged, rest, parts, rfl, some_left, fun size => ?_, fun size => ?_⟩
    · rw [parts.openBy, dif_pos size, if_neg (mt List.length_eq_zero_iff.mpr some_left)]
    · rw [parts.openBy, dif_neg size]
  case read =>
    intro value told
    obtain ⟨content, tagged, parts⟩ := readUnverified_eq_ok_iff.mp told
    refine ⟨content, tagged, parts, fun size => ?_, fun size => ?_⟩
    · rw [parts.openBy, dif_neg size]
    · rw [parts.openBy, dif_pos size, if_pos rfl]
  case once =>
    intro value content signature sealed_as
    have parts := seals_iff_parts.mp sealed_as
    exact ⟨readUnverified_eq_ok_iff.mpr ⟨_, _, parts⟩,
      (openBy_of_frame (seals_iff_frame.mp sealed_as) choose).2⟩
  case never =>
    intro unsealed
    cases taken : Frame.ofBytes (α := s.Value) bytes with
    | ok frame => exact absurd (seals_iff_frame.mpr taken) (unsealed _ _ _)
    | error e => exact (openBy_of_error taken choose).2

end Schema
end Wire
end CertifiedAccess
