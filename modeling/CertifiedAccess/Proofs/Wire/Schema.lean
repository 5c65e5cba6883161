import CertifiedAccess.Key.Ed25519
import CertifiedAccess.Proofs.Certificate.WireForm

/-!
What is sent: a schema says of which type a value is, plain or a certificate with another value inside,
however deep. Every schema has a canonical wire form. Which values can be read back is said for each
schema, and so are the length-prefixed fields of a value, the only part of it that may be too large.
-/
namespace CertifiedAccess.Wire

/-- The fields that can be written are those within the limit; of several others the first is told. -/
def firstTooLarge (fields : List Bytes) : Option WireError :=
  (fields.find? fun octets => maxFieldLength < octets.length).map fun octets => .tooLarge octets.length

theorem firstTooLarge_cons (octets : Bytes) (rest : List Bytes) :
    firstTooLarge (octets :: rest) =
      if maxFieldLength < octets.length then some (.tooLarge octets.length) else firstTooLarge rest := by
  by_cases large : maxFieldLength < octets.length
  · simp [firstTooLarge, large]
  · simp [firstTooLarge, large]

theorem exists_firstTooLarge_iff {fields : List Bytes} :
    (∃ e, firstTooLarge fields = some e) ↔ ∃ octets ∈ fields, maxFieldLength < octets.length := by
  rw [← Option.isSome_iff_exists, firstTooLarge, Option.isSome_map, List.find?_isSome]
  simp

theorem firstTooLarge_eq_none_iff {fields : List Bytes} :
    firstTooLarge fields = none ↔ ∀ octets ∈ fields, octets.length ≤ maxFieldLength := by
  simp [firstTooLarge, List.find?_eq_none]

theorem field_eq_error_iff {octets : Bytes} {e : WireError} :
    field octets = .error e ↔ firstTooLarge [octets] = some e := by
  rw [firstTooLarge_cons]
  by_cases large : maxFieldLength < octets.length
  · simp [field, large]
  · simp [field, large, firstTooLarge]

/-- Writing that begins with a field. -/
theorem field_bind_eq_error_iff {α : Type} {octets : Bytes} {rest : Bytes → Except WireError α}
    {later : List Bytes} {e : WireError}
    (behind : ∀ written, rest written = .error e ↔ firstTooLarge later = some e) :
    (field octets >>= rest) = .error e ↔ firstTooLarge (octets :: later) = some e := by
  rw [firstTooLarge_cons]
  by_cases large : maxFieldLength < octets.length
  · simp [field, large, bind, Except.bind]
  · simpa [field, large, bind, Except.bind] using behind _

section
variable {α : Type} [Codec α] [Canonical α]

/-- A wire form is read wherever it stands. -/
theorem decode_of_stands {value : α} {content : Bytes} (readable : Canonical.Readable value)
    (wrote : Codec.encode value = .ok content) (before after : Bytes) (mark : Nat) :
    (Codec.decode : Read α) ⟨before ++ content ++ after, before.length, mark⟩ =
      .ok value ⟨before ++ content ++ after, before.length + content.length, mark⟩ := by
  refine (Canonical.accepts _ _ _).mpr ⟨content, ⟨readable, wrote⟩, ⟨after, ?_⟩, rfl⟩
  rw [List.append_assoc, List.drop_left]

/-- A value is read from exactly its wire form. -/
theorem exists_slice_of_decode {r next : Reader} {value : α}
    (decoded : Codec.decode r = .ok value next) :
    ∃ content, Codec.encode value = .ok content ∧
      r.input.extract r.position next.position = content ∧
      next = { r with position := r.position + content.length } := by
  obtain ⟨content, ⟨-, wrote⟩, moved⟩ := (Canonical.accepts r value next).mp decoded
  exact ⟨content, wrote, moved.extract_eq, moved.2⟩

omit [Canonical α] in
theorem decodeStart_eq_ok_iff {bytes : Bytes} {next : Reader} {value : α} :
    decodeStart α bytes = (.ok value, next) ↔
      Codec.decode (Reader.ofBytes bytes) = .ok value next := by
  unfold decodeStart
  cases (Codec.decode : Read α) (Reader.ofBytes bytes) with
  | ok a r => simp
  | error e r => simp

/-- The reader that has read all of these octets. -/
def Reader.atEnd (bytes : Bytes) : Reader := ⟨bytes, bytes.length, 0⟩

theorem encode_of_decodeStart {bytes : Bytes} {value : α}
    (decoded : decodeStart α bytes = (.ok value, .atEnd bytes)) : Codec.encode value = .ok bytes := by
  obtain ⟨content, wrote, same, -⟩ := exists_slice_of_decode (decodeStart_eq_ok_iff.mp decoded)
  have whole : (bytes.drop 0).take (bytes.length - 0) = content :=
    List.extract_eq_take_drop.symm.trans same
  rw [wrote, ← whole, List.drop_zero, Nat.sub_zero, List.take_length]

end

inductive Schema where
  | blob
  | text
  | nothing
  | account
  | certificate (payload : Schema)

namespace Schema

def Value : Schema → Type
  | .blob => Blob
  | .text => String
  | .nothing => Unit
  | .account => AccountPayload
  | .certificate payload => Certificate payload.Value

/-- The length-prefixed fields of a value, in the order in which they are written. -/
def fields : (s : Schema) → s.Value → List Bytes
  | .blob, (value : Blob) => [value.bytes]
  | .text, (value : String) => [Text.utf8 value]
  | .nothing, _ => []
  | .account, (value : AccountPayload) => [Text.utf8 value.userId, Text.utf8 value.username]
  | .certificate payload, (c : Certificate payload.Value) =>
    c.issuer.toTagged.encode :: c.client.toTagged.encode :: payload.fields c.payload

variable [SignatureScheme]

instance codec : (s : Schema) → Codec s.Value
  | .blob => inferInstanceAs (Codec Blob)
  | .text => inferInstanceAs (Codec String)
  | .nothing => inferInstanceAs (Codec Unit)
  | .account => inferInstanceAs (Codec AccountPayload)
  | .certificate payload =>
    let _ := codec payload
    inferInstanceAs (Codec (Certificate payload.Value))

instance canonical : (s : Schema) → Canonical s.Value
  | .blob => inferInstanceAs (Canonical Blob)
  | .text => inferInstanceAs (Canonical String)
  | .nothing => inferInstanceAs (Canonical Unit)
  | .account => inferInstanceAs (Canonical AccountPayload)
  | .certificate payload =>
    let _ := canonical payload
    inferInstanceAs (Canonical (Certificate payload.Value))

/-- Values that are read back as they were: in every certificate the keys denote keys, and the expiry is
one that `Certificate.make` leaves as it is, outside leap seconds. -/
def Legible : (s : Schema) → s.Value → Prop
  | .blob, _ | .text, _ | .nothing, _ | .account, _ => True
  | .certificate payload, (c : Certificate payload.Value) =>
    SignatureScheme.denotes c.issuer = true ∧ SignatureScheme.denotes c.client = true ∧
      c.expiresAt.isLeap = false ∧ c.expiresAt.toMillisecond = c.expiresAt ∧
      payload.Legible c.payload

theorem readable_iff_legible (s : Schema) (value : s.Value) :
    Canonical.Readable value ↔ s.Legible value := by
  induction s with
  | blob => exact Iff.rfl
  | text => exact Iff.rfl
  | nothing => exact Iff.rfl
  | account => exact Iff.rfl
  | certificate payload ih =>
    obtain ⟨issuer, client, expiresAt, roles, inner⟩ := value
    constructor
    · rintro ⟨denotes, denotes', whole, readable⟩
      obtain ⟨ordinary, cut⟩ := Instant.isMillisecond_iff.mp whole
      exact ⟨denotes, denotes', ordinary, cut, (ih inner).mp readable⟩
    · rintro ⟨denotes, denotes', ordinary, cut, legible⟩
      exact ⟨denotes, denotes', Instant.isMillisecond_iff.mpr ⟨ordinary, cut⟩, (ih inner).mpr legible⟩

theorem encode_eq_error_iff (s : Schema) (value : s.Value) (e : WireError) :
    Codec.encode value = .error e ↔ firstTooLarge (s.fields value) = some e := by
  induction s with
  | blob => exact field_eq_error_iff
  | text => exact field_eq_error_iff
  | nothing =>
    change Except.ok _ = Except.error e ↔ none = some e
    simp
  | account =>
    change (do let userId ← field _; let username ← field _; return userId ++ username) = _ ↔ _
    refine field_bind_eq_error_iff fun userId => field_bind_eq_error_iff fun username => ?_
    simp [firstTooLarge, pure, Except.pure]
  | certificate payload ih =>
    change Certificate.encode (π := payload.Value) value = _ ↔ _
    refine field_bind_eq_error_iff fun issuer => field_bind_eq_error_iff fun client => ?_
    rw [bind_pure_eq_error_iff]
    exact ih _

theorem exists_encode_of_fits {s : Schema} {value : s.Value}
    (fits : firstTooLarge (s.fields value) = none) : ∃ content, Codec.encode value = .ok content := by
  cases written : (Codec.encode value : Except WireError Bytes) with
  | ok content => exact ⟨content, rfl⟩
  | error e =>
    rw [encode_eq_error_iff, fits] at written
    contradiction

/-- A value that was written is read back wherever its octets stand, and reading ends where they end. It is
written unless one of its fields is too large, and of several such fields the first is told. -/
theorem decode_of_encode (s : Schema) (value : s.Value) :
    (s.Legible value → ∀ content, Codec.encode value = .ok content →
      ∀ (before after : Bytes) (mark : Nat),
        (Codec.decode : Read s.Value) ⟨before ++ content ++ after, before.length, mark⟩ =
          .ok value ⟨before ++ content ++ after, before.length + content.length, mark⟩) ∧
    ((∃ e, (Codec.encode value : Except WireError Bytes) = .error e) ↔
      ∃ octets ∈ s.fields value, maxFieldLength < octets.length) ∧
    ∀ e, Codec.encode value = .error e ↔ firstTooLarge (s.fields value) = some e := by
  refine ⟨?_, ?_, s.encode_eq_error_iff value⟩
  · intro legible content wrote before after mark
    exact decode_of_stands ((s.readable_iff_legible value).mpr legible) wrote before after mark
  · simp only [encode_eq_error_iff]
    exact exists_firstTooLarge_iff

/-- What is read was written so: a value that is read from some octets has exactly these as its wire form,
so no two octet strings are in full the same value. -/
theorem encode_of_decode (s : Schema) :
    (∀ (r next : Reader) (value : s.Value), Codec.decode r = .ok value next →
      ∃ content, Codec.encode value = .ok content ∧
        r.input.extract r.position next.position = content ∧
        next = { r with position := r.position + content.length }) ∧
    ∀ (a b : Bytes) (value : s.Value),
      decodeStart s.Value a = (.ok value, .atEnd a) → decodeStart s.Value b = (.ok value, .atEnd b) →
        a = b := by
  refine ⟨fun r next value decoded => exists_slice_of_decode decoded, ?_⟩
  intro a b value decoded decoded'
  have wrote := encode_of_decodeStart decoded
  rw [encode_of_decodeStart decoded'] at wrote
  exact (Except.ok.inj wrote).symm

end Schema

/-! A certificate inside a certificate, both with an expiry before 1970. -/
namespace Endorsement

/-- The octets of the curve's base point. -/
def key : PublicKey := ⟨0x58 :: List.replicate 31 0x66, by decide⟩

def expiry : Instant := ⟨-1, 999000000, by decide, by decide, by decide, by decide⟩

def endorsed : Certificate AccountPayload := .make key key expiry ⟨5⟩ ⟨"user-1", "alice"⟩

def schema : Schema := .certificate (.certificate .account)

def endorsement : schema.Value := Certificate.make key key expiry ⟨0⟩ endorsed

theorem exists_encode : ∃ content, Codec.encode endorsement = .ok content :=
  Schema.exists_encode_of_fits (by decide +kernel)

theorem legible_endorsement : schema.Legible endorsement := by
  have denotes : SignatureScheme.denotes key = true := by decide +kernel
  have ordinary : expiry.isLeap = false ∧ expiry.toMillisecond = expiry := by decide
  exact ⟨denotes, denotes, ordinary.1, ordinary.2, denotes, denotes, ordinary.1, ordinary.2, trivial⟩

theorem decode_endorsement :
    ∃ content, Codec.encode endorsement = .ok content ∧
      (Codec.decode : Read schema.Value) ⟨[1, 2] ++ content ++ [3], 2, 7⟩ =
        .ok endorsement ⟨[1, 2] ++ content ++ [3], 2 + content.length, 7⟩ := by
  obtain ⟨content, wrote⟩ := exists_encode
  obtain ⟨reads, -⟩ := schema.decode_of_encode endorsement
  exact ⟨content, wrote, reads legible_endorsement content wrote [1, 2] [3] 7⟩

theorem content_unique :
    ∃ content, decodeStart schema.Value content = (.ok endorsement, .atEnd content) ∧
      ∀ other, decodeStart schema.Value other = (.ok endorsement, .atEnd other) → other = content := by
  obtain ⟨content, wrote⟩ := exists_encode
  have readable := (schema.readable_iff_legible endorsement).mpr legible_endorsement
  have decoded := decode_of_stands readable wrote [] [] 0
  rw [List.append_nil, List.nil_append, List.length_nil, Nat.zero_add] at decoded
  have whole := decodeStart_eq_ok_iff.mpr decoded
  obtain ⟨-, unique⟩ := schema.encode_of_decode
  exact ⟨content, whole, fun other decoded' => unique other content endorsement decoded' whole⟩

end Endorsement
end CertifiedAccess.Wire
