import CertifiedAccess.Proofs.Certificate.Disclosure
import CertifiedAccess.Proofs.Http.Verification

/-!
What is signed for a request is never what is signed for a certificate, so one key may serve for both. No tag
tells the two apart: a request's message starts with the length of a field, whose limit leaves a zero in front,
and a certificate's with its version. Only payloads whose reading leaves the mark in front of them get around
that, and there are such payloads. Which message a call has checked is told by its outcome: it is the one
message on which a different judge of signatures makes a difference.
-/
namespace CertifiedAccess

/-- Tells whether a key accepts a signature of a message. -/
abbrev Judge := PublicKey → Bytes → Signature → Bool

/-- The scheme with another judge: which octets denote keys stays as it is. -/
@[reducible] def SignatureScheme.judgedBy [scheme : SignatureScheme] (judge : Judge) : SignatureScheme :=
  { scheme with accepts := judge }

section
variable [SignatureScheme] {α : Type} {call : SignatureScheme → α} {key : PublicKey} {message other : Bytes}
  {signature : Signature}

/-- The outcome of a call hangs on what is judged of a message: two judges that agree on all others need not
lead to the same. -/
def LooksAt (call : SignatureScheme → α) (message : Bytes) : Prop :=
  ∃ judge judge' : Judge, (∀ key other signature, other ≠ message →
      judge key other signature = judge' key other signature) ∧
    call (.judgedBy judge) ≠ call (.judgedBy judge')

/-- A call that asks once whether a key accepts a signature of a message, and says what it was told. -/
def Asks (call : SignatureScheme → α) (key : PublicKey) (message : Bytes) (signature : Signature) : Prop :=
  ∃ accepted refused, accepted ≠ refused ∧
    ∀ judge : Judge, call (.judgedBy judge) = if judge key message signature then accepted else refused

theorem Asks.looksAt_iff (asks : Asks call key message signature) : LooksAt call other ↔ other = message := by
  obtain ⟨accepted, refused, differ, outcome⟩ := asks
  constructor
  · rintro ⟨judge, judge', agree, apart⟩
    by_contra unasked
    rw [outcome judge, outcome judge', agree key message signature (Ne.symm unasked)] at apart
    contradiction
  · rintro rfl
    refine ⟨fun _ _ _ => true, fun _ asked _ => decide (asked ≠ other), ?_, ?_⟩
    · intro _ asked _ elsewhere
      exact (decide_eq_true elsewhere).symm
    · simpa [outcome] using differ

/-- A call that asks nothing looks at nothing. -/
theorem not_looksAt_of_const {outcome : α} (silent : ∀ judge : Judge, call (.judgedBy judge) = outcome) :
    ¬ LooksAt call message := by
  rintro ⟨judge, judge', -, apart⟩
  rw [silent, silent] at apart
  contradiction

end

namespace Http
variable [SignatureScheme] {method path : String} {headers : Headers} {signature : Signature}
  {key : PublicKey} {message : Bytes} {request : Request}

omit [SignatureScheme] in
theorem exists_cons_of_canonicalBytes (wrote : canonicalBytes method path headers = .ok message) :
    ∃ rest, message = 0 :: rest := by
  obtain ⟨line, first, wrote⟩ := bind_eq_ok_iff.mp wrote
  obtain ⟨fields, -, same⟩ := bind_eq_ok_iff.mp wrote
  obtain ⟨rest, rfl⟩ := Wire.exists_cons_of_field (mapError_eq_ok_iff.mp first)
  rw [pure_eq_ok_iff] at same
  exact ⟨rest ++ fields.flatten, same.symm⟩

theorem asks_verifyParts (wrote : canonicalBytes method path headers = .ok message) :
    Asks (fun scheme => @verifyParts scheme method path headers signature key) key message signature := by
  refine ⟨.ok (), .error .signatureValidationFailed, nofun, fun judge => ?_⟩
  unfold verifyParts
  rw [wrote]
  rfl

theorem looksAt_verifyParts_iff :
    LooksAt (fun scheme => @verifyParts scheme method path headers signature key) message ↔
      canonicalBytes method path headers = .ok message := by
  cases wrote : canonicalBytes method path headers with
  | ok covered => rw [(asks_verifyParts wrote).looksAt_iff, Except.ok.injEq, eq_comm]
  | error e =>
    have silent (judge : Judge) :
        @verifyParts (.judgedBy judge) method path headers signature key = .error e := by
      unfold verifyParts
      rw [wrote]
      rfl
    exact iff_of_false (not_looksAt_of_const silent) nofun

/-- A request is looked at as a whole once its signature can be read and its body is the one declared. -/
theorem looksAt_verify_iff :
    LooksAt (fun scheme => @Request.verify scheme request key) message ↔
      (∃ signature, signatureOf request.headers = .ok signature) ∧ BodyCovered request ∧
        request.covered = .ok message := by
  rw [← bodyMatches_iff]
  cases read : signatureOf request.headers with
  | error e =>
    have silent (judge : Judge) : @Request.verify (.judgedBy judge) request key = .error e := by
      unfold Request.verify
      rw [read]
      rfl
    refine iff_of_false (not_looksAt_of_const silent) ?_
    rintro ⟨⟨_, read⟩, -⟩
    contradiction
  | ok signature =>
    by_cases covered : bodyMatches request = true
    · have parts : (fun scheme => @Request.verify scheme request key) = fun scheme =>
          @verifyParts scheme request.method.name request.target.signedPath request.headers signature key := by
        funext scheme
        unfold Request.verify
        rw [read, covered]
        rfl
      rw [parts, looksAt_verifyParts_iff]
      exact ⟨fun wrote => ⟨⟨_, rfl⟩, covered, wrote⟩, fun reached => reached.2.2⟩
    · have silent (judge : Judge) :
          @Request.verify (.judgedBy judge) request key = .error .signatureValidationFailed := by
        unfold Request.verify
        rw [read, Bool.eq_false_iff.mpr covered]
        rfl
      exact iff_of_false (not_looksAt_of_const silent) fun reached => covered reached.2.1

end Http

namespace Certificate
open Wire
variable {π : Type} [Codec π] {c : Certificate π} {content bytes : Bytes}

theorem exists_cons_of_encode (wrote : c.encode = .ok content) :
    ∃ rest, content = certificateVersion :: rest := by
  obtain ⟨_, _, _, -, -, -, rfl⟩ := encode_eq_ok_iff.mp wrote
  exact ⟨_, rfl⟩

variable [SignatureScheme] {trusted : TrustedKeys} {now : Instant} {message : Bytes}
  {frame : Frame (Certificate π)}

theorem validate_of_frame (taken : Frame.ofBytes bytes = .ok frame) :
    validate trusted bytes now =
      if frame.value.issuer.verify frame.signed frame.signature then
        ((frame.value.check trusted now).mapError CertificateError.rejected).map fun _ => frame.value
      else .error (.wire .invalidSignature) := by
  by_cases genuine : frame.value.issuer.verify frame.signed frame.signature = true
  · rw [if_pos genuine]
    exact validate_of_isGenuine ⟨frame, taken, rfl, genuine⟩ trusted now
  · rw [if_neg genuine, validate_eq_wire_iff, openSelfNamed, openBy, openWith, taken]
    change Except.map _ (frame.verify frame.value.issuer) = _
    rw [Frame.verify, if_neg genuine]
    rfl

theorem looksAt_validate_iff :
    LooksAt (fun scheme => @validate π scheme _ trusted bytes now) message ↔
      ∃ frame : Frame (Certificate π), Frame.ofBytes bytes = .ok frame ∧ frame.signed = message := by
  cases taken : (Frame.ofBytes bytes : Except WireError (Frame (Certificate π))) with
  | ok frame =>
    have asks : Asks (fun scheme => @validate π scheme _ trusted bytes now) frame.value.issuer
        frame.signed frame.signature := by
      refine ⟨_, _, ?_, fun judge => @validate_of_frame π _ bytes (.judgedBy judge) trusted now frame taken⟩
      -- a genuine certificate is accepted or rejected, and neither is an error of the wire form
      cases frame.value.check trusted now with
      | ok u => nofun
      | error reason => nofun
    rw [asks.looksAt_iff]
    constructor
    · rintro rfl
      exact ⟨frame, rfl, rfl⟩
    · rintro ⟨_, same, rfl⟩
      rw [Except.ok.inj same]
  | error e =>
    have silent (judge : Judge) : @validate π (.judgedBy judge) _ trusted bytes now = .error (.wire e) := by
      have failed : @Frame.ofBytes (Certificate π) (@instCodec π (.judgedBy judge) _) bytes = .error e := taken
      unfold validate openSelfNamed openBy openWith
      rw [failed]
      rfl
    refine iff_of_false (not_looksAt_of_const silent) ?_
    rintro ⟨_, same, -⟩
    contradiction

/-- In front of the payload stand the version, two keys, the expiry and the roles. -/
theorem marksPast_decode (payload : (Codec.decode : Read π).MarksPast 0) :
    (decode : Read (Certificate π)).MarksPast (1 + (37 + (37 + (8 + (8 + 0))))) := by
  have key (key : PublicKey) (octets : Bytes) :
      SignatureScheme.denotes key = true ∧ field key.toTagged.encode = .ok octets → octets.length = 37 :=
    fun written => length_of_field_key written.2
  have word {n : Nat} {octets : Bytes} (written : octets = Bytes.bigEndian 8 n) : octets.length = 8 := by
    rw [written, Bytes.length_bigEndian]
  refine Read.Accepts.u8.marksPast_bind (fun _ _ same => congrArg List.length same) fun version => ?_
  dsimp only
  split
  · exact (Read.Accepts.thrown_bind _ _).marksPast _
  · refine Read.Accepts.readKey.marksPast_bind key fun issuer => ?_
    refine Read.Accepts.readKey.marksPast_bind key fun client => ?_
    refine Read.Accepts.i64.marksPast_bind (fun _ _ => word) fun milliseconds => ?_
    split
    · exact (Read.Accepts.thrown _).marksPast _
    · refine Read.Accepts.u64.marksPast_bind (fun _ _ => word) fun roles => ?_
      exact payload.bind fun inner => Read.Accepts.returned _

/-- The version is read first, and no other is taken. -/
theorem version_of_decode {r next : Reader} (decoded : decode r = .ok c next) :
    [certificateVersion] <+: r.input.drop r.position := by
  obtain ⟨version, middle, taken, decoded⟩ := Read.bind_eq_ok_iff.mp decoded
  obtain ⟨_, rfl, stands, -⟩ := (Read.Accepts.u8 _ _ _).mp taken
  dsimp only at decoded
  split at decoded
  · contradiction
  · rename_i known
    rwa [not_not.mp known] at stands

/-- The octets whose signature is checked start with the version, unless the payload's reading sets the mark on
octets that stand in front of the payload. -/
theorem exists_cons_of_ofBytes (payload : (Codec.decode : Read π).MarksPast 0)
    (taken : Frame.ofBytes bytes = .ok frame) : ∃ rest, frame.signed = certificateVersion :: rest := by
  obtain ⟨middle, tagged, behind, last, _, decoded, field, told, ended, again⟩ :=
    Frame.ofBytes_eq_ok_iff_reads.mp taken
  obtain ⟨input, mark⟩ := marksPast_decode payload _ _ _ decoded
  obtain ⟨there, rfl⟩ := Read.signature_eq_ok_iff.mp ⟨_, _, field, told⟩
  obtain ⟨rest, first⟩ := version_of_decode decoded
  obtain ⟨_, ⟨rfl, size⟩, stands, -⟩ := (Read.Accepts.bytes _ _ _ _).mp again
  dsimp only [Reader.ofBytes, Reader.remaining] at *
  cases signed : frame.signed with
  | nil =>
    -- reading that ends where it began leaves the version where the signature's length should be
    obtain ⟨more, length_first⟩ := exists_cons_of_field (field_encode_signature frame.signature)
    rw [input, ← size, signed, List.length_nil, ← first, length_first] at there
    exact absurd (List.cons_prefix_cons.mp there).1 (by decide)
  | cons octet more =>
    rw [signed] at stands size
    have marked : middle.mark = 0 := by
      refine mark.resolve_right fun past => ?_
      -- behind such a mark there are fewer octets than are to be read again
      have fits := stands.length_le
      have left := there.length_le
      rw [List.length_drop] at fits left
      rw [length_signatureField] at ended left
      rw [size] at fits
      rw [List.length_cons] at size
      omega
    rw [input, marked, ← first] at stands
    exact ⟨more, by rw [(List.cons_prefix_cons.mp stands).1]⟩

end Certificate

theorem Bytes.apart_of_cons {first first' : UInt8} {rest rest' : Bytes} (differ : first ≠ first') :
    first :: rest ≠ first' :: rest' ∧ ¬ first :: rest <+: first' :: rest' ∧
      ¬ first' :: rest' <+: first :: rest := by
  refine ⟨fun same => differ (List.cons.inj same).1, fun begins => ?_, fun begins => ?_⟩
  · exact differ (List.cons_prefix_cons.mp begins).1
  · exact differ (List.cons_prefix_cons.mp begins).1.symm

/-- No request's message is a certificate's, nor does one of them begin with the other. So no message that the
verification of a request looks at is one that the validation of a certificate looks at, whatever the keys are and
however payloads are read, if only their reading sets no mark on octets in front of the payload. -/
theorem domains_apart [SignatureScheme] :
    (∀ (method path : String) (headers : Http.Headers) (message : Bytes),
      Http.canonicalBytes method path headers = .ok message →
        ∀ {π : Type} [Wire.Codec π] (c : Certificate π) (content : Bytes), c.encode = .ok content →
          message ≠ content ∧ ¬ message <+: content ∧ ¬ content <+: message) ∧
    ∀ message : Bytes,
      ((∃ method path headers signature key,
          LooksAt (fun scheme => @Http.verifyParts scheme method path headers signature key) message) ∨
        ∃ request key, LooksAt (fun scheme => @Http.Request.verify scheme request key) message) →
      ∀ {π : Type} [Wire.Codec π], (Wire.Codec.decode : Wire.Read π).MarksPast 0 →
        ∀ trusted bytes now,
          ¬ LooksAt (fun scheme => @Certificate.validate π scheme _ trusted bytes now) message := by
  constructor
  · intro method path headers message wrote π _ c content wrote'
    obtain ⟨_, rfl⟩ := Http.exists_cons_of_canonicalBytes wrote
    obtain ⟨_, rfl⟩ := Certificate.exists_cons_of_encode wrote'
    exact Bytes.apart_of_cons (by decide)
  · intro message of_request π _ payload trusted bytes now of_certificate
    obtain ⟨method, path, headers, wrote⟩ : ∃ method path headers,
        Http.canonicalBytes method path headers = .ok message := by
      rcases of_request with ⟨method, path, headers, _, _, looks⟩ | ⟨request, _, looks⟩
      · exact ⟨method, path, headers, Http.looksAt_verifyParts_iff.mp looks⟩
      · exact ⟨_, _, _, (Http.looksAt_verify_iff.mp looks).2.2⟩
    obtain ⟨frame, taken, signed⟩ := Certificate.looksAt_validate_iff.mp of_certificate
    obtain ⟨_, zero⟩ := Http.exists_cons_of_canonicalBytes wrote
    obtain ⟨_, version⟩ := Certificate.exists_cons_of_ofBytes payload taken
    rw [← signed, version] at zero
    exact absurd (List.cons.inj zero).1 (by decide)

/-! A service that certifies its own key, and signs a request that carries the certificate with that same key. -/
namespace SelfCertified

def key : PrivateKey := ⟨List.replicate 32 12, List.length_replicate⟩

def verifier : PublicKey := key.publicKey

def expiry : Instant := ⟨1740000000, 4000000, by decide, by decide, by decide, by decide⟩

def certificate : Certificate String :=
  .make verifier verifier expiry RoleMask.empty "billing"

def content : Bytes :=
  match certificate.encode with
  | .ok octets => octets
  | .error _ => []

def sealedCertificate : Bytes := content ++ Wire.signatureField (key.sign content)

def unsigned : Http.Request where
  method := ⟨"POST", by decide⟩
  target := .origin "/invoices"
  headers := Http.Headers.none.set Http.certificateHeader.name (Text.utf8 (encodeBase64 sealedCertificate))
  body := Text.utf8 "[]"

def message : Bytes :=
  (Http.canonicalParts "POST" "/invoices" unsigned.withDigest.headers).flatMap Http.framed

def request : Http.Request := unsigned.withDigest.withSignature (key.sign message)

def trusted : TrustedKeys := ⟨[verifier], by simp⟩

theorem encode_certificate : certificate.encode = .ok content := by decide +kernel

theorem signed_request : Http.SignedBy key request message := by
  have formed : unsigned.withDigest.covered = .ok message := by decide +kernel
  exact Http.Request.signedBy_withSignature key formed

theorem looksAt_message :
    LooksAt (fun scheme => @Http.Request.verify scheme request verifier) message :=
  Http.looksAt_verify_iff.mpr
    ⟨⟨_, signed_request.signatureOf_eq⟩, signed_request.bodyCovered, signed_request.wrote⟩

theorem looksAt_content :
    LooksAt (fun scheme => @Certificate.validate String scheme _ trusted sealedCertificate expiry) content := by
  have denotes : SignatureScheme.denotes verifier = true := by decide +kernel
  have readable : certificate.IsReadable := Certificate.isReadable_make denotes denotes rfl trivial
  have taken : Wire.Frame.ofBytes sealedCertificate = .ok ⟨certificate, content, key.sign content⟩ :=
    Wire.Frame.ofBytes_eq_ok_iff.mpr ⟨readable, encode_certificate, rfl⟩
  exact Certificate.looksAt_validate_iff.mpr ⟨_, taken, rfl⟩

/-- Each of the two calls looks at its own message and not at the other's. -/
theorem messages_apart :
    (message ≠ content ∧ ¬ message <+: content ∧ ¬ content <+: message) ∧
    (LooksAt (fun scheme => @Http.Request.verify scheme request verifier) message ∧
      ¬ LooksAt (fun scheme => @Certificate.validate String scheme _ trusted sealedCertificate expiry)
        message) ∧
    LooksAt (fun scheme => @Certificate.validate String scheme _ trusted sealedCertificate expiry) content ∧
      ¬ LooksAt (fun scheme => @Http.Request.verify scheme request verifier) content := by
  obtain ⟨forms, calls⟩ := domains_apart
  have payload : (Wire.Codec.decode : Wire.Read String).MarksPast 0 := Wire.Canonical.accepts.marksPast 0
  refine ⟨forms _ _ _ _ signed_request.wrote certificate _ encode_certificate, ⟨looksAt_message, ?_⟩,
    looksAt_content, ?_⟩
  · exact calls message (.inr ⟨request, _, looksAt_message⟩) payload trusted sealedCertificate expiry
  · intro looks
    exact calls content (.inr ⟨request, _, looks⟩) payload trusted sealedCertificate expiry looksAt_content

end SelfCertified

/-! The condition on payloads cannot be left out. Here is one that keeps to its own place on the wire, and leaves
the mark in front of it. -/

/-- A payload of no octets. To read it is to go back to the mark and forward again to where it stands; on the way
the mark is set 48 octets in front of it. -/
structure Bookmark where
  deriving DecidableEq

namespace Bookmark
open Wire

instance : Codec Bookmark where
  encode _ := .ok []
  decode := do
    let place := (← get).position
    Read.toMark
    let behind := place - (← get).position
    let _ ← Read.bytes (behind - 48)
    Read.setMark
    let _ ← Read.bytes (min behind 48)
    return {}

/-- Reading ends where it began, behind all octets that writing gives. -/
theorem exists_decode {r : Reader} (ordered : r.mark ≤ r.position) (inside : r.position ≤ r.input.length) :
    ∃ mark, (Codec.decode : Read Bookmark) r = .ok {} { r with mark := mark } := by
  refine ⟨r.position - min (r.position - r.mark) 48, ?_⟩
  simp only [Codec.decode, Read.bind_eq_ok_iff, Read.get_eq_ok_iff, Read.toMark_eq_ok_iff,
    Read.setMark_eq_ok_iff, Read.pure_eq_ok_iff]
  -- read after read; only the two that go forward can fail
  refine ⟨_, _, ⟨rfl, rfl⟩, (), _, rfl, _, _, ⟨rfl, rfl⟩, _, _, Read.bytes_of_le ?_, (), _, rfl, _, _,
    Read.bytes_of_le ?_, trivial, ?_⟩
  · dsimp only [Reader.remaining]
    omega
  · dsimp only [Reader.remaining]
    omega
  · simp only [Reader.mk.injEq, true_and]
    omega

/-- Its first four octets are the length of a field, and the others begin a request. -/
def key : PublicKey := ⟨[0, 0, 0, 87] ++ Text.utf8 "GET /accounts/alice/keys?n=0", by decide +kernel⟩

def expiry : Instant := ⟨2199023255, 552000000, by decide, by decide, by decide, by decide⟩

def certificate : Certificate Bookmark := .make key key expiry RoleMask.empty {}

def content : Bytes :=
  match certificate.encode with
  | .ok octets => octets
  | .error _ => []

def signature : Signature := ⟨List.replicate 64 46, List.length_replicate⟩

def sealedCertificate : Bytes := content ++ signatureField signature

/-- What is between the mark and as many octets behind it as are in front of the signature. -/
def message : Bytes := (sealedCertificate.drop 43).take content.length

def path : String := Text.ofAscii (message.drop 8)

def trusted : TrustedKeys := ⟨[key], by simp⟩

theorem canonicalBytes_message : Http.canonicalBytes "GET" path Http.Headers.none = .ok message := by
  decide +kernel

theorem ofBytes_sealedCertificate :
    Frame.ofBytes sealedCertificate = .ok (⟨certificate, message, signature⟩ : Frame (Certificate Bookmark)) := by
  decide +kernel

/-- Both calls look at one message, although reading the payload takes exactly the octets that it was written as. -/
theorem looksAt_one_message :
    (∀ r : Reader, r.mark ≤ r.position → r.position ≤ r.input.length →
      ∃ mark, (Codec.decode : Read Bookmark) r = .ok {} { r with mark := mark }) ∧
    certificate.encode = .ok content ∧ sealedCertificate = content ++ signatureField signature ∧
    LooksAt (fun scheme => @Http.verifyParts scheme "GET" path Http.Headers.none signature key) message ∧
    LooksAt (fun scheme => @Certificate.validate Bookmark scheme _ trusted sealedCertificate expiry) message :=
  ⟨fun _ => exists_decode, by decide +kernel, rfl, Http.looksAt_verifyParts_iff.mpr canonicalBytes_message,
    Certificate.looksAt_validate_iff.mpr ⟨_, ofBytes_sealedCertificate, rfl⟩⟩

end Bookmark
end CertifiedAccess
