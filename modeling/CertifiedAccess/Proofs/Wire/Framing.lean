import CertifiedAccess.Proofs.Wire.Agreement

/-!
Sealed values that are cut or that have something behind them. A cut, wherever it is, leaves octets of which is said
that some are missing, before anything is said of keys, texts or signatures; and whatever stands behind a sealed value
is told by its length.
-/
namespace CertifiedAccess.Wire

namespace Schema
variable [SignatureScheme] {s : Schema} {value : s.Value} {content bytes : Bytes} {tagged : Tagged}
  {key : PrivateKey}

/-- What is sealed is the wire form of the value that it is read back as. -/
theorem exists_parts_of_seal (keyed : s.Keyed value)
    (ordinary : ∀ t ∈ s.expiries value, t.isLeap = false) (signed : sealValue value key = .ok bytes) :
    ∃ (back : s.Value) (content : Bytes) (signature : Signature),
      Parts back content signature.toTagged [] bytes := by
  obtain ⟨content, wrote, rfl⟩ := sealValue_eq_ok_iff.mp signed
  obtain ⟨back, told⟩ := (s.exists_reread_iff value).mpr fun t there last => by
    rw [Instant.IsLastLeap, ordinary t there] at last
    exact Bool.false_ne_true last.1
  have whole : (Reader.ofBytes content).Advances content ⟨content, 0 + content.length, 0⟩ :=
    ⟨List.prefix_refl content, rfl⟩
  have decoded := s.decode_ends keyed wrote whole
  rw [told] at decoded
  obtain ⟨content', ⟨readable, wrote'⟩, stands, last⟩ := (Canonical.accepts _ _ _).mp decoded
  have size : content'.length = content.length := by
    have positions := congrArg Reader.position last
    simp only [Reader.ofBytes, Nat.zero_add] at positions
    exact positions.symm
  obtain rfl : content' = content := stands.eq_of_length size
  exact ⟨back, content', key.sign content', (s.readable_iff_legible back).mp readable, wrote', _,
    field_encode_signature _, (List.append_nil _).symm⟩

/-- What is cut is not read, for want of what is missing. -/
theorem Parts.cut {cut missing : Bytes} (whole : Parts value content tagged [] (cut ++ missing))
    (some_missing : missing ≠ []) :
    ∃ needed remaining stop, s.readParts (.ofBytes cut) = .error (.truncated needed remaining) stop := by
  rcases s.exists_parts_or_error cut with ⟨value', content', tagged', rest, parts⟩ | ⟨e, stop, read⟩
  · obtain ⟨-, -, -, none_left⟩ := (parts.append missing).unique whole
    exact absurd (List.append_eq_nil_iff.mp none_left).2 some_missing
  · rcases s.failsForGood_readParts.stands read with ⟨needed, remaining, rfl⟩ | stays
    · exact ⟨needed, remaining, stop, read⟩
    · -- an error that stands would be one of the whole, which is read
      obtain ⟨stop', failed⟩ := stays missing
      have failed : s.readParts (.ofBytes (cut ++ missing)) = .error e stop' := failed
      have told := readUnverified_eq_ok_iff.mpr ⟨content, tagged, whole⟩
      rw [(readParts_of_error failed).1] at told
      contradiction

/-- What is cut out of a sealed value at its start, whether a key opens it or it is read without a look at the
signature, is refused because octets are missing; and octets behind a sealed value are refused by their number,
whatever they are. -/
theorem refuses_cut_and_extended (s : Schema) {value : s.Value} (keyed : s.Keyed value)
    (ordinary : ∀ t ∈ s.expiries value, t.isLeap = false) {key : PrivateKey} {bytes : Bytes}
    (signed : sealValue value key = .ok bytes) (verifier : PublicKey) :
    (∀ cut, cut <+: bytes → cut ≠ bytes → ∃ needed remaining,
      openSealed (α := s.Value) cut verifier = .error (.truncated needed remaining) ∧
        readUnverified (α := s.Value) cut = .error (.truncated needed remaining)) ∧
    ∀ more, more ≠ [] →
      openSealed (α := s.Value) (bytes ++ more) verifier = .error (.trailingBytes more.length) ∧
        readUnverified (α := s.Value) (bytes ++ more) = .error (.trailingBytes more.length) := by
  obtain ⟨back, content, signature, parts⟩ := exists_parts_of_seal keyed ordinary signed
  constructor
  · rintro cut ⟨missing, rfl⟩ proper
    have some_missing : missing ≠ [] := by
      rintro rfl
      exact proper (List.append_nil cut).symm
    obtain ⟨needed, remaining, stop, failed⟩ := parts.cut some_missing
    obtain ⟨unread, unframed⟩ := readParts_of_error failed
    exact ⟨needed, remaining, (openBy_of_error unframed _).1, unread⟩
  · intro more some_more
    have extended := parts.append more
    rw [List.nil_append] at extended
    have size : signature.toTagged.payload.length = 64 := signature.length_raw
    rw [openSealed, extended.openBy, dif_pos size, if_neg some_more, extended.readUnverified,
      if_neg some_more]
    exact ⟨rfl, rfl⟩

end Schema

namespace SealedNote

theorem sealValue_note : sealValue note issuer = .ok sealedNote := by
  refine sealValue_eq_ok_iff.mpr ⟨content, seals_note.written, ?_⟩
  rw [signatureField_eq, sealedNote]

theorem length_sealedNote : sealedNote.length = 168 := by
  have size : content.length = 99 := by decide +kernel
  rw [sealedNote, List.length_append, List.length_append, List.length_cons, size,
    Bytes.length_bigEndian, Signature.length_raw]

/-- The note without the end of its signature, and the note twice. -/
theorem openSealed_torn :
    (∃ needed remaining, openSealed (α := schema.Value) (sealedNote.take 160) issuer.publicKey =
      .error (.truncated needed remaining)) ∧
    openSealed (α := schema.Value) (sealedNote ++ sealedNote) issuer.publicKey =
      .error (.trailingBytes sealedNote.length) := by
  have denotes : SignatureScheme.denotes issuer.publicKey = true := by decide +kernel
  have ordinary : ∀ t ∈ schema.expiries note, t.isLeap = false := by
    change ∀ t ∈ [Endorsement.expiry.toMillisecond], t.isLeap = false
    decide
  have keyed : schema.Keyed note := ⟨denotes, denotes, trivial⟩
  obtain ⟨torn, doubled⟩ := schema.refuses_cut_and_extended keyed ordinary sealValue_note
    issuer.publicKey
  have longer : sealedNote.take 160 ≠ sealedNote := by
    intro same
    have sizes := congrArg List.length same
    rw [List.length_take, length_sealedNote] at sizes
    omega
  have some_more : sealedNote ≠ [] := by
    refine List.ne_nil_of_length_pos ?_
    rw [length_sealedNote]
    omega
  obtain ⟨needed, remaining, refused, -⟩ := torn _ (List.take_prefix 160 sealedNote) longer
  exact ⟨⟨needed, remaining, refused⟩, (doubled sealedNote some_more).1⟩

end SealedNote
end CertifiedAccess.Wire
