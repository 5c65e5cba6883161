import CertifiedAccess.Proofs.Milliseconds
import CertifiedAccess.Proofs.Wire.Canonical
import CertifiedAccess.Proofs.Wire.Tagged

/-!
The wire form of certificates is canonical whenever that of their payload is, so also for certificates
inside certificates. What is read has keys that denote keys and an expiry of whole milliseconds outside
leap seconds; every such certificate is read back as it was written.
-/
namespace CertifiedAccess.Certificate
open Wire
variable [SignatureScheme] {π : Type} [Codec π] [Canonical π]

/-- Certificates that their own wire form leads back to. -/
structure IsReadable (c : Certificate π) : Prop where
  issuer : SignatureScheme.denotes c.issuer = true
  client : SignatureScheme.denotes c.client = true
  expiry : c.expiresAt.IsMillisecond
  payload : Canonical.Readable c.payload

theorem isReadable_make {issuer client : PublicKey} {expiresAt : Instant} {roles : RoleMask} {payload : π}
    (issuerDenotes : SignatureScheme.denotes issuer = true)
    (clientDenotes : SignatureScheme.denotes client = true) (ordinary : expiresAt.isLeap = false)
    (readable : Canonical.Readable payload) :
    (make issuer client expiresAt roles payload).IsReadable :=
  ⟨issuerDenotes, clientDenotes, Instant.isMillisecond_toMillisecond ordinary, readable⟩

omit [SignatureScheme] [Canonical π] in
theorem encode_eq_ok_iff {c : Certificate π} {bytes : Bytes} :
    c.encode = .ok bytes ↔ ∃ issuer client payload,
      field c.issuer.toTagged.encode = .ok issuer ∧ field c.client.toTagged.encode = .ok client ∧
      Codec.encode c.payload = .ok payload ∧
      bytes = certificateVersion :: (issuer ++ client ++
        Bytes.bigEndian 8 c.expiresAt.milliseconds.toInt64.toUInt64.toNat ++
        Bytes.bigEndian 8 c.roles.bits.toNat ++ payload) := by
  simp only [encode, bind_eq_ok_iff, pure_eq_ok_iff, eq_comm (b := bytes)]
  constructor
  · rintro ⟨issuer, wrote, client, wrote', payload, wrote'', rfl⟩
    exact ⟨issuer, client, payload, wrote, wrote', wrote'', rfl⟩
  · rintro ⟨issuer, client, payload, wrote, wrote', wrote'', rfl⟩
    exact ⟨issuer, wrote, client, wrote', payload, wrote'', rfl⟩

/-- The wire form of a certificate for an account, octet for octet: the version, both keys as fields of a tag
and 32 octets, the expiry, the roles, and the user's id and name as fields. -/
def octets (c : Certificate AccountPayload) : Bytes :=
  [1] ++ Bytes.bigEndian 4 33 ++ [1] ++ c.issuer.raw ++ Bytes.bigEndian 4 33 ++ [1] ++ c.client.raw ++
    Bytes.bigEndian 8 c.expiresAt.milliseconds.toInt64.toUInt64.toNat ++
    Bytes.bigEndian 8 c.roles.bits.toNat ++
    Bytes.bigEndian 4 (Text.utf8 c.payload.userId).length ++ Text.utf8 c.payload.userId ++
    Bytes.bigEndian 4 (Text.utf8 c.payload.username).length ++ Text.utf8 c.payload.username

omit [SignatureScheme] in
theorem encode_account_eq {c : Certificate AccountPayload} {content : Bytes}
    (wrote : c.encode = .ok content) : content = c.octets := by
  obtain ⟨issuer, client, payload, first, second, last, rfl⟩ := encode_eq_ok_iff.mp wrote
  obtain ⟨userId, wrote_id, last⟩ := bind_eq_ok_iff.mp last
  obtain ⟨username, wrote_name, last⟩ := bind_eq_ok_iff.mp last
  obtain rfl := pure_eq_ok_iff.mp last
  obtain ⟨-, rfl⟩ := field_eq_ok_iff.mp wrote_id
  obtain ⟨-, rfl⟩ := field_eq_ok_iff.mp wrote_name
  obtain rfl := Except.ok.inj ((field_encode_key c.issuer).symm.trans first)
  obtain rfl := Except.ok.inj ((field_encode_key c.client).symm.trans second)
  simp [octets, PublicKey.toTagged, Tagged.encode, c.issuer.length_raw, c.client.length_raw,
    certificateVersion, PublicKey.mechanism, Mechanism.tag]

omit [SignatureScheme] in
/-- The reads behind the expiry. -/
theorem accepts_rest (issuer client : PublicKey) (expiresAt : Instant) :
    Read.Accepts (do
        let roles ← Read.u64
        let payload ← Codec.decode
        return (⟨issuer, client, expiresAt, ⟨roles⟩, payload⟩ : Certificate π))
      fun c bytes => c.issuer = issuer ∧ c.client = client ∧ c.expiresAt = expiresAt ∧
        Canonical.Readable c.payload ∧ ∃ payload, Codec.encode c.payload = .ok payload ∧
          bytes = Bytes.bigEndian 8 c.roles.bits.toNat ++ payload := by
  have both := Read.Accepts.u64.bind fun roles =>
    (Canonical.accepts (α := π)).bind fun payload =>
      Read.Accepts.returned (⟨issuer, client, expiresAt, ⟨roles⟩, payload⟩ : Certificate π)
  refine both.congr fun c bytes => ?_
  constructor
  · rintro ⟨roles, _, _, rfl, ⟨payload, wire, _, ⟨readable, wrote⟩, ⟨rfl, rfl⟩, rfl⟩, rfl⟩
    exact ⟨rfl, rfl, rfl, readable, wire, wrote, by rw [List.append_nil]⟩
  · rintro ⟨rfl, rfl, rfl, readable, payload, wrote, rfl⟩
    exact ⟨_, _, payload, rfl, ⟨_, payload, [], ⟨readable, wrote⟩, ⟨rfl, rfl⟩, by simp⟩, rfl⟩

omit [SignatureScheme] in
/-- The reads behind the two keys: only counts of milliseconds that tell an instant are taken. -/
theorem accepts_dated (issuer client : PublicKey) :
    Read.Accepts (do
        let ms := (← Read.i64).toInt
        match Instant.ofMilliseconds? ms with
        | none => throw (.invalidTimestamp ms)
        | some expiresAt =>
          let roles ← Read.u64
          let payload ← Codec.decode
          return (⟨issuer, client, expiresAt, ⟨roles⟩, payload⟩ : Certificate π))
      fun c bytes => c.issuer = issuer ∧ c.client = client ∧ c.expiresAt.IsMillisecond ∧
        Canonical.Readable c.payload ∧ ∃ payload, Codec.encode c.payload = .ok payload ∧
          bytes = Bytes.bigEndian 8 c.expiresAt.milliseconds.toInt64.toUInt64.toNat ++
            (Bytes.bigEndian 8 c.roles.bits.toNat ++ payload) := by
  have told (word : Int64) :
      Read.Accepts (match Instant.ofMilliseconds? word.toInt with
          | none => throw (.invalidTimestamp word.toInt)
          | some expiresAt => do
            let roles ← Read.u64
            let payload ← Codec.decode
            return (⟨issuer, client, expiresAt, ⟨roles⟩, payload⟩ : Certificate π))
        fun c bytes => c.issuer = issuer ∧ c.client = client ∧
          Instant.ofMilliseconds? word.toInt = some c.expiresAt ∧
          Canonical.Readable c.payload ∧ ∃ payload, Codec.encode c.payload = .ok payload ∧
            bytes = Bytes.bigEndian 8 c.roles.bits.toNat ++ payload := by
    cases dated : Instant.ofMilliseconds? word.toInt with
    | none =>
      refine (Read.Accepts.thrown _).congr fun c bytes => ?_
      simp
    | some expiresAt =>
      refine (accepts_rest issuer client expiresAt).congr fun c bytes => ?_
      simp only [Option.some.injEq, eq_comm (a := expiresAt)]
  refine (Read.Accepts.i64.bind told).congr fun c bytes => ?_
  constructor
  · rintro ⟨word, _, _, rfl, ⟨rfl, rfl, dated, readable, payload, wrote, rfl⟩, rfl⟩
    obtain ⟨whole, same⟩ := Instant.ofMilliseconds?_eq_some_iff.mp dated
    refine ⟨rfl, rfl, whole, readable, payload, wrote, ?_⟩
    rw [same, Int.toInt64, Int64.ofInt_toInt]
  · rintro ⟨rfl, rfl, whole, readable, payload, wrote, rfl⟩
    have dated := Instant.ofMilliseconds?_eq_some_iff.mpr
      ⟨whole, (Instant.toInt_milliseconds c.expiresAt).symm⟩
    exact ⟨_, _, _, rfl, ⟨rfl, rfl, dated, readable, payload, wrote, rfl⟩, rfl⟩

theorem accepts_decode :
    (decode : Read (Certificate π)).Accepts fun c bytes => c.IsReadable ∧ c.encode = .ok bytes := by
  have versioned (version : UInt8) :
      Read.Accepts (do
          if version ≠ certificateVersion then
            throw (.unsupportedVersion certificateVersion version)
          let issuer ← readKey
          let client ← readKey
          let ms := (← Read.i64).toInt
          match Instant.ofMilliseconds? ms with
          | none => throw (.invalidTimestamp ms)
          | some expiresAt =>
            let roles ← Read.u64
            let payload ← Codec.decode
            return (⟨issuer, client, expiresAt, ⟨roles⟩, payload⟩ : Certificate π))
        fun c bytes => version = certificateVersion ∧ c.IsReadable ∧
          ∃ issuer client payload, field c.issuer.toTagged.encode = .ok issuer ∧
            field c.client.toTagged.encode = .ok client ∧ Codec.encode c.payload = .ok payload ∧
            bytes = issuer ++ client ++
              Bytes.bigEndian 8 c.expiresAt.milliseconds.toInt64.toUInt64.toNat ++
              Bytes.bigEndian 8 c.roles.bits.toNat ++ payload := by
    by_cases known : version = certificateVersion
    · rw [if_neg (not_not.mpr known)]
      have keys := Read.Accepts.readKey.bind fun issuer =>
        Read.Accepts.readKey.bind fun client => accepts_dated (π := π) issuer client
      refine keys.congr fun c bytes => ?_
      constructor
      · rintro ⟨_, issuer, _, ⟨denotes, wrote⟩, ⟨_, client, _, ⟨denotes', wrote'⟩,
          ⟨rfl, rfl, whole, readable, payload, wrote'', rfl⟩, rfl⟩, rfl⟩
        exact ⟨known, ⟨denotes, denotes', whole, readable⟩, issuer, client, payload, wrote, wrote',
          wrote'', by simp only [List.append_assoc]⟩
      · rintro ⟨-, ⟨denotes, denotes', whole, readable⟩, issuer, client, payload, wrote, wrote',
          wrote'', rfl⟩
        exact ⟨_, issuer, _, ⟨denotes, wrote⟩, ⟨_, client, _, ⟨denotes', wrote'⟩,
          ⟨rfl, rfl, whole, readable, payload, wrote'', rfl⟩, rfl⟩, by simp only [List.append_assoc]⟩
    · rw [if_pos known]
      refine (Read.Accepts.thrown_bind _ _).congr fun c bytes => ?_
      simp [known]
  refine (Read.Accepts.u8.bind versioned).congr fun c bytes => ?_
  rw [encode_eq_ok_iff]
  constructor
  · rintro ⟨_, _, _, rfl, ⟨rfl, readable, issuer, client, payload, wrote, wrote', wrote'', rfl⟩, rfl⟩
    exact ⟨readable, issuer, client, payload, wrote, wrote', wrote'', rfl⟩
  · rintro ⟨readable, issuer, client, payload, wrote, wrote', wrote'', rfl⟩
    exact ⟨_, _, _, rfl, ⟨rfl, readable, issuer, client, payload, wrote, wrote', wrote'', rfl⟩, rfl⟩

instance : Canonical (Certificate π) where
  Readable := IsReadable
  accepts := accepts_decode

end CertifiedAccess.Certificate
