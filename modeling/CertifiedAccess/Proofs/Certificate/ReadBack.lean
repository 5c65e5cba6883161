import CertifiedAccess.Proofs.Timeline
import CertifiedAccess.Proofs.Wire.Opening
import CertifiedAccess.Proofs.Wire.Schema

/-!
What a sealed certificate is read back as. The wire form holds the expiry as a count of milliseconds, so a
certificate that expires inside a leap second comes back with an expiry in the second after it, and one that
expires inside the last leap second does not come back at all. All others come back as they were made, with
the certificates inside them.
-/
namespace CertifiedAccess
open Wire

namespace Wire.Read
variable {α β : Type} {read : Read α} {r middle next : Reader}

/-- How reading ends; behind which octets, if it succeeds. -/
def Ends (read : Read α) (r : Reader) (result : Except WireError α) (next : Reader) : Prop :=
  match result with
  | .ok value => read r = .ok value next
  | .error e => ∃ stop, read r = .error e stop

theorem ends_bind_of_ok {f : α → Read β} {a : α} {result : Except WireError β}
    (first : read r = .ok a middle) (rest : (f a).Ends middle result next) :
    (read >>= f).Ends r result next := by
  unfold Ends at *
  rwa [bind_of_ok first]

/-- Reading that cannot fail any more once there is a value. -/
theorem Ends.bind {f : α → Read β} {g : α → β} {result : Except WireError α}
    (ended : read.Ends r result middle) (rest : ∀ a, f a middle = .ok (g a) next) :
    (read >>= f).Ends r (result.map g) next := by
  cases result with
  | ok a => exact ends_bind_of_ok ended (rest a)
  | error e =>
    obtain ⟨stop, failed⟩ := ended
    exact ⟨stop, bind_of_error failed⟩

theorem run_of_ends {bytes : Bytes} {result : Except WireError α}
    (ended : read.Ends (.ofBytes bytes) result next) : read.run bytes = result := by
  cases result with
  | ok a => exact run_eq_ok_iff.mpr ⟨next, ended⟩
  | error e => exact run_of_error ended

end Wire.Read

namespace Wire.Schema

/-- When the certificates in a value expire, from the outermost one on. -/
def expiries : (s : Schema) → s.Value → List Instant
  | .blob, _ | .text, _ | .nothing, _ | .account, _ => []
  | .certificate payload, (c : Certificate payload.Value) => c.expiresAt :: payload.expiries c.payload

/-- The value that its own wire form says: every expiry is what its count of milliseconds leads to. -/
def reread : (s : Schema) → s.Value → Except WireError s.Value
  | .blob, value | .text, value | .nothing, value | .account, value => .ok value
  | .certificate payload, (c : Certificate payload.Value) =>
    match Instant.ofMilliseconds? c.expiresAt.milliseconds with
    | none => .error (.invalidTimestamp c.expiresAt.milliseconds)
    | some expiresAt => (payload.reread c.payload).map fun inner =>
        (⟨c.issuer, c.client, expiresAt, c.roles, inner⟩ : Certificate payload.Value)

theorem reread_certificate_eq_ok_iff {payload : Schema} {c back : Certificate payload.Value} :
    payload.certificate.reread c = .ok back ↔
      ∃ t inner, Instant.ofMilliseconds? c.expiresAt.milliseconds = some t ∧
        payload.reread c.payload = .ok inner ∧
        back = ⟨c.issuer, c.client, t, c.roles, inner⟩ := by
  simp only [reread]
  cases Instant.ofMilliseconds? c.expiresAt.milliseconds with
  | none => simp
  | some t =>
    refine map_eq_ok_iff.trans ?_
    constructor
    · rintro ⟨inner, told, rfl⟩
      exact ⟨t, inner, rfl, told, rfl⟩
    · rintro ⟨_, inner, ⟨⟩, told, rfl⟩
      exact ⟨inner, told, rfl⟩

theorem exists_reread_iff (s : Schema) (value : s.Value) :
    (∃ back, s.reread value = .ok back) ↔ ∀ t ∈ s.expiries value, ¬ t.IsLastLeap := by
  induction s with
  | blob => exact iff_of_true ⟨value, rfl⟩ (List.forall_mem_nil _)
  | text => exact iff_of_true ⟨value, rfl⟩ (List.forall_mem_nil _)
  | nothing => exact iff_of_true ⟨value, rfl⟩ (List.forall_mem_nil _)
  | account => exact iff_of_true ⟨value, rfl⟩ (List.forall_mem_nil _)
  | certificate payload ih =>
    obtain ⟨issuer, client, expiresAt, roles, inner⟩ := value
    simp only [expiries, List.forall_mem_cons, ← ih, ← Instant.exists_ofMilliseconds?_iff expiresAt]
    constructor
    · rintro ⟨back, told⟩
      obtain ⟨t, inner, found, told, -⟩ := reread_certificate_eq_ok_iff.mp told
      exact ⟨⟨t, found⟩, inner, told⟩
    · rintro ⟨⟨t, found⟩, inner, told⟩
      exact ⟨_, reread_certificate_eq_ok_iff.mpr ⟨t, inner, found, told, rfl⟩⟩

variable [SignatureScheme]

/-- All keys in a value denote keys. -/
def Keyed : (s : Schema) → s.Value → Prop
  | .blob, _ | .text, _ | .nothing, _ | .account, _ => True
  | .certificate payload, (c : Certificate payload.Value) =>
    SignatureScheme.denotes c.issuer = true ∧ SignatureScheme.denotes c.client = true ∧
      payload.Keyed c.payload

/-- Legible values are those with good keys that their wire form says as they are. -/
theorem legible_iff_reread (s : Schema) (value : s.Value) :
    s.Legible value ↔ s.Keyed value ∧ s.reread value = .ok value := by
  induction s with
  | blob => exact iff_of_true trivial ⟨trivial, rfl⟩
  | text => exact iff_of_true trivial ⟨trivial, rfl⟩
  | nothing => exact iff_of_true trivial ⟨trivial, rfl⟩
  | account => exact iff_of_true trivial ⟨trivial, rfl⟩
  | certificate payload ih =>
    obtain ⟨issuer, client, expiresAt, roles, inner⟩ := value
    rw [reread_certificate_eq_ok_iff]
    constructor
    · rintro ⟨denotes, denotes', ordinary, cut, legible⟩
      obtain ⟨keyed, same⟩ := (ih inner).mp legible
      refine ⟨⟨denotes, denotes', keyed⟩, expiresAt, inner, ?_, same, rfl⟩
      rw [Instant.ofMilliseconds?_eq_toMillisecond_iff.mpr ordinary, cut]
    · rintro ⟨⟨denotes, denotes', keyed⟩, t, inner, found, same, ⟨⟩⟩
      obtain ⟨whole, -⟩ := Instant.ofMilliseconds?_eq_some_iff.mp found
      obtain ⟨ordinary, cut⟩ := Instant.isMillisecond_iff.mp whole
      exact ⟨denotes, denotes', ordinary, cut, (ih inner).mpr ⟨keyed, same⟩⟩

/-- Reading a wire form, wherever it stands, gives what it says. -/
theorem decode_ends {r next : Reader} (s : Schema) {value : s.Value} {content : Bytes}
    (keyed : s.Keyed value) (wrote : Codec.encode value = .ok content)
    (moved : r.Advances content next) :
    (Codec.decode : Read s.Value).Ends r (s.reread value) next := by
  induction s generalizing r next content with
  | blob => exact Canonical.accepts.reads ⟨trivial, wrote⟩ moved
  | text => exact Canonical.accepts.reads ⟨trivial, wrote⟩ moved
  | nothing => exact Canonical.accepts.reads ⟨trivial, wrote⟩ moved
  | account => exact Canonical.accepts.reads ⟨trivial, wrote⟩ moved
  | certificate payload ih =>
    obtain ⟨issuer, client, expiresAt, roles, inner⟩ := value
    obtain ⟨denotes, denotes', keyed⟩ := keyed
    obtain ⟨_, _, _, wrote₁, wrote₂, wrote₃, rfl⟩ := Certificate.encode_eq_ok_iff.mp wrote
    simp only [List.append_assoc] at moved
    have moved : r.Advances ([certificateVersion] ++ _) next := moved
    -- one reader behind each part of the form
    obtain ⟨r₁, moved₁, moved⟩ := Reader.Advances.append_iff.mp moved
    obtain ⟨r₂, moved₂, moved⟩ := Reader.Advances.append_iff.mp moved
    obtain ⟨r₃, moved₃, moved⟩ := Reader.Advances.append_iff.mp moved
    obtain ⟨r₄, moved₄, moved⟩ := Reader.Advances.append_iff.mp moved
    obtain ⟨r₅, moved₅, moved₆⟩ := Reader.Advances.append_iff.mp moved
    refine Read.ends_bind_of_ok (Read.Accepts.u8.reads rfl moved₁) ?_
    rw [if_neg (not_not.mpr rfl)]
    refine Read.ends_bind_of_ok (Read.Accepts.readKey.reads ⟨denotes, wrote₁⟩ moved₂) ?_
    refine Read.ends_bind_of_ok (Read.Accepts.readKey.reads ⟨denotes', wrote₂⟩ moved₃) ?_
    refine Read.ends_bind_of_ok (Read.Accepts.i64.reads rfl moved₄) ?_
    simp only [Instant.toInt_milliseconds, reread]
    cases Instant.ofMilliseconds? expiresAt.milliseconds with
    | none => exact ⟨r₄, rfl⟩
    | some t =>
      refine Read.ends_bind_of_ok (Read.Accepts.u64.reads rfl moved₅) ?_
      exact (ih keyed wrote₃ moved₆).bind fun _ => rfl

/-- The signature behind a wire form is read past, whatever it is. -/
theorem readUnverified_eq_reread (s : Schema) {value : s.Value} {content : Bytes}
    (keyed : s.Keyed value) (wrote : Codec.encode value = .ok content) (signature : Signature) :
    readUnverified (content ++ signatureField signature) = s.reread value := by
  let bytes := content ++ signatureField signature
  have whole : (Reader.ofBytes bytes).Advances bytes (.atEnd bytes) := by
    refine ⟨List.prefix_refl bytes, ?_⟩
    rw [Reader.ofBytes, Nat.zero_add, Reader.atEnd]
  obtain ⟨middle, moved, moved'⟩ := Reader.Advances.append_iff.mp whole
  have tagged := Read.Accepts.tagged.reads (field_encode_signature signature) moved'
  have finished : Read.finish (.atEnd bytes) = .ok () (.atEnd bytes) :=
    Read.finish_eq_ok_iff.mpr ⟨Nat.sub_self _, rfl⟩
  have ended : Read.Ends (do
      let value ← Codec.decode
      let _ ← Read.tagged
      Read.finish
      return value) (.ofBytes bytes) ((s.reread value).map id) (.atEnd bytes) := by
    refine (s.decode_ends keyed wrote moved).bind fun value => ?_
    rw [Read.bind_of_ok tagged, Read.bind_of_ok finished]
    rfl
  rw [Except.map_id] at ended
  exact Read.run_of_ends ended

end Wire.Schema

namespace Certificate
variable {π : Type} {s : Schema} {client : PublicKey} {expiry : Instant} {roles : RoleMask}
  {payload : s.Value}

/-- Of two certificates one of which expires later, only that one is valid in between. -/
theorem isExpiredAt_ne_iff {c back : Certificate π} (later : c.expiresAt < back.expiresAt)
    (now : Instant) :
    back.isExpiredAt now ≠ c.isExpiredAt now ↔ c.expiresAt < now ∧ now ≤ back.expiresAt := by
  unfold isExpiredAt
  by_cases past : back.expiresAt < now
  · have both := Instant.lt_trans later past
    rw [decide_eq_true past, decide_eq_true both]
    exact iff_of_false (not_not.mpr rfl) fun still => still.2 past
  · rw [decide_eq_false past, ne_comm, ne_eq, Bool.not_eq_false, decide_eq_true_iff]
    exact (and_iff_left past).symm

theorem exists_encode [Codec π] (c : Certificate π) {content : Bytes}
    (wrote : Codec.encode c.payload = .ok content) : ∃ whole, c.encode = .ok whole := by
  exact ⟨_, encode_eq_ok_iff.mpr
    ⟨_, _, content, field_encode_key c.issuer, field_encode_key c.client, wrote, rfl⟩⟩

theorem reread_make_eq_ok_iff {issuer : PublicKey} {back : Certificate s.Value} :
    s.certificate.reread (make issuer client expiry roles payload) = .ok back ↔
      ∃ t inner, Instant.ofMilliseconds? expiry.milliseconds = some t ∧
        s.reread payload = .ok inner ∧ back = ⟨issuer, client, t, roles, inner⟩ := by
  rw [← expiry.milliseconds_toMillisecond]
  exact Schema.reread_certificate_eq_ok_iff

theorem exists_reread_make_iff {issuer : PublicKey} :
    (∃ back : Certificate s.Value,
      s.certificate.reread (make issuer client expiry roles payload) = .ok back ∧
        back.expiresAt = expiry.toMillisecond) ↔
      expiry.isLeap = false ∧ ∀ t ∈ s.expiries payload, ¬ t.IsLastLeap := by
  rw [← s.exists_reread_iff, ← Instant.ofMilliseconds?_eq_toMillisecond_iff]
  constructor
  · rintro ⟨back, reads, same⟩
    obtain ⟨t, inner, found, told, rfl⟩ := reread_make_eq_ok_iff.mp reads
    obtain rfl : t = expiry.toMillisecond := same
    exact ⟨found, inner, told⟩
  · rintro ⟨found, inner, told⟩
    exact ⟨_, reread_make_eq_ok_iff.mpr ⟨_, inner, found, told, rfl⟩, rfl⟩

variable [SignatureScheme] {issuer : PrivateKey} {built : Certificate s.Value}

theorem sign_of_encode [Codec π] {c : Certificate π} {content : Bytes}
    (own : issuer.publicKey = c.issuer) (wrote : c.encode = .ok content) :
    c.sign issuer = .ok (content ++ signatureField (issuer.sign content)) := by
  rw [sign, if_pos own]
  exact sealValue_eq_ok_iff.mpr ⟨content, wrote, rfl⟩

/-- A certificate that is made, signed and read back. -/
theorem exists_sign_ofTrustedBytes (built : Certificate s.Value)
    (own : issuer.publicKey = built.issuer) (keyed : s.certificate.Keyed built) {content : Bytes}
    (wrote : Codec.encode built.payload = .ok content) :
    ∃ bytes, built.sign issuer = .ok bytes ∧
      (ofTrustedBytes bytes : Except WireError (Certificate s.Value)) =
        s.certificate.reread built := by
  obtain ⟨whole, wrote⟩ := built.exists_encode wrote
  refine ⟨_, sign_of_encode own wrote, ?_⟩
  exact s.certificate.readUnverified_eq_reread keyed wrote (issuer.sign whole)

/-- What is read back of a certificate that was made and signed by its issuer. It has the expiry that it
was made with, and is expired at the same times, exactly if that expiry is not inside a leap second and no
certificate in the payload expires inside the last one. With an expiry inside a leap second it is valid into
the next second, if it is read at all. -/
theorem make_survives_iff (makes : built = .make issuer.publicKey client expiry roles payload)
    (keyed : s.certificate.Keyed built) {content : Bytes}
    (wrote : Codec.encode payload = .ok content) :
    ∃ bytes, built.sign issuer = .ok bytes ∧
      (ofTrustedBytes bytes : Except WireError (Certificate s.Value)) =
        s.certificate.reread built ∧
      ((∃ back : Certificate s.Value, ofTrustedBytes bytes = .ok back ∧
          back.expiresAt = built.expiresAt ∧
          ∀ now, back.isExpiredAt now = built.isExpiredAt now) ↔
        expiry.isLeap = false ∧ ∀ t ∈ s.expiries payload, ¬ t.IsLastLeap) ∧
      (expiry.isLeap = false → s.Legible payload → ofTrustedBytes bytes = .ok built) ∧
      (expiry.isLeap = true → ∀ back : Certificate s.Value, ofTrustedBytes bytes = .ok back →
        back.expiresAt.seconds = built.expiresAt.seconds + 1 ∧
        back.expiresAt.nanos + 1000000000 = built.expiresAt.nanos ∧
        ∀ now, back.isExpiredAt now ≠ built.isExpiredAt now ↔
          built.expiresAt < now ∧ now ≤ back.expiresAt) := by
  subst makes
  obtain ⟨bytes, signed, told⟩ := exists_sign_ofTrustedBytes _ rfl keyed wrote
  refine ⟨bytes, signed, told, ?survives, ?ordinary, ?leap⟩
  case survives =>
    rw [told, ← exists_reread_make_iff]
    constructor
    · rintro ⟨back, reads, same, -⟩
      exact ⟨back, reads, same⟩
    · rintro ⟨back, reads, same⟩
      refine ⟨back, reads, same, fun now => ?_⟩
      rw [isExpiredAt, same]
      rfl
  case ordinary =>
    intro ordinary legible
    obtain ⟨-, same⟩ := (s.legible_iff_reread payload).mp legible
    have found := Instant.ofMilliseconds?_eq_toMillisecond_iff.mpr ordinary
    rw [told]
    exact reread_make_eq_ok_iff.mpr ⟨_, payload, found, same, rfl⟩
  case leap =>
    intro leap back reads
    rw [told] at reads
    obtain ⟨t, inner, found, -, rfl⟩ := reread_make_eq_ok_iff.mp reads
    obtain ⟨seconds, nanos⟩ := Instant.parts_of_leap leap found
    refine ⟨seconds, nanos, isExpiredAt_ne_iff (.inl ?_)⟩
    change expiry.seconds < t.seconds
    omega

end Certificate

/-! A certificate about another that expires just before 1970, and one that is made for the leap second
of June 2015. -/
namespace Keepsake

def issuer : PrivateKey := ⟨List.replicate 32 6, List.length_replicate⟩

/-- The last nanosecond before 1970. -/
def expiry : Instant :=
  { Endorsement.expiry with
    nanos := 999999999
    nanos_lt := by decide
    leap := by decide }

def payload : (Schema.certificate .account).Value := Endorsement.endorsed

def built : Certificate (Schema.certificate .account).Value :=
  .make issuer.publicKey Endorsement.key expiry ⟨5⟩ payload

theorem ofTrustedBytes_built :
    built.expiresAt.nanos = 999000000 ∧
      ∃ bytes, built.sign issuer = .ok bytes ∧ Certificate.ofTrustedBytes bytes = .ok built := by
  have denotes : SignatureScheme.denotes issuer.publicKey = true := by decide +kernel
  have denotes' : SignatureScheme.denotes Endorsement.key = true := by decide +kernel
  have legible : (Schema.certificate .account).Legible payload :=
    ⟨denotes', denotes', by decide, by decide, trivial⟩
  have fits : firstTooLarge ((Schema.certificate .account).fields payload) = none := by
    decide +kernel
  obtain ⟨content, wrote⟩ := Schema.exists_encode_of_fits fits
  have makes : built = .make issuer.publicKey Endorsement.key expiry ⟨5⟩ payload := rfl
  obtain ⟨bytes, signed, -, -, survives, -⟩ := Certificate.make_survives_iff makes
    ⟨denotes, denotes', denotes', denotes', trivial⟩ wrote
  exact ⟨rfl, bytes, signed, survives (by decide) legible⟩

/-- A quarter of a second into the leap second of June 2015. -/
def leapExpiry : Instant := ⟨1435708799, 1250000000, by decide, by decide, by decide, by decide⟩

def postponed : Certificate Schema.nothing.Value :=
  .make issuer.publicKey Endorsement.key leapExpiry ⟨0⟩ ()

/-- It comes back with an expiry one second later, and is still valid then. -/
theorem ofTrustedBytes_postponed :
    ∃ bytes, postponed.sign issuer = .ok bytes ∧
      ∃ back : Certificate Schema.nothing.Value, Certificate.ofTrustedBytes bytes = .ok back ∧
        back.expiresAt ≠ postponed.expiresAt ∧
        ∃ now, postponed.isExpiredAt now = true ∧ back.isExpiredAt now = false := by
  have denotes : SignatureScheme.denotes issuer.publicKey = true := by decide +kernel
  have denotes' : SignatureScheme.denotes Endorsement.key = true := by decide +kernel
  obtain ⟨bytes, signed, told⟩ := Certificate.exists_sign_ofTrustedBytes postponed rfl
    ⟨denotes, denotes', trivial⟩ rfl
  let next : Instant := ⟨1435708800, 250000000, by decide, by decide, by decide, by decide⟩
  refine ⟨bytes, signed, { postponed with expiresAt := next }, ?_, ?_, next, ?_⟩
  · rw [told]
    exact Schema.reread_certificate_eq_ok_iff.mpr ⟨next, (), by decide, rfl, rfl⟩
  · decide
  · decide

end Keepsake
end CertifiedAccess
