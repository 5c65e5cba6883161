import CertifiedAccess.Proofs.Http.CanonicalForm
import CertifiedAccess.Proofs.Wire.Tagged

/-!
What verification of a request accepts, check by check, and what signing leaves in the headers: verification
looks for exactly that.
-/
namespace CertifiedAccess.Http

/-- The octets that are signed do not depend on any other header. -/
theorem canonicalBytes_congr {method path : String} {headers headers' : Headers}
    (same : ∀ header ∈ signedHeaders, headers.values header.name = headers'.values header.name) :
    canonicalBytes method path headers = canonicalBytes method path headers' := by
  have parts (known : List SignedHeader) (member : ∀ header ∈ known, header ∈ signedHeaders) :
      known.mapM (canonicalHeader headers) = known.mapM (canonicalHeader headers') := by
    induction known with
    | nil => rfl
    | cons header rest ih =>
      rw [List.forall_mem_cons] at member
      have head : canonicalHeader headers header = canonicalHeader headers' header := by
        simp only [canonicalHeader, same header member.1]
      rw [List.mapM_cons, List.mapM_cons, head, ih member.2]
  simp only [canonicalBytes, parts signedHeaders fun _ known => known]

theorem signatureHeader_ne {header : SignedHeader} (known : header ∈ signedHeaders) :
    signatureHeader ≠ header.name := by
  have unsigned : ∀ header ∈ signedHeaders, signatureHeader ≠ header.name := by decide +kernel
  exact unsigned header known

theorem canonicalBytes_set_signature (method path : String) (headers : Headers)
    (value : HeaderValue) :
    canonicalBytes method path (headers.set signatureHeader value) =
      canonicalBytes method path headers :=
  canonicalBytes_congr fun _ known => Headers.values_set_of_ne _ _ (signatureHeader_ne known)

theorem signatureOf_eq_ok_iff {headers : Headers} {signature : Signature} :
    signatureOf headers = .ok signature ↔
      ∃ value, headers.first? signatureHeader = some value ∧
        Base64.decode? value = some (1 :: signature.raw) := by
  unfold signatureOf
  cases headers.first? signatureHeader with
  | none => simp
  | some value =>
    cases decoded : Base64.decode? value with
    | none => simp [decoded]
    | some octets =>
      simp only [decoded, mapError_eq_ok_iff, bind_eq_ok_iff, Tagged.decode_eq_ok_iff,
        Signature.ofTagged_eq_ok_iff]
      constructor
      · rintro ⟨_, rfl, rfl⟩
        exact ⟨value, rfl, decoded⟩
      · rintro ⟨_, same, found⟩
        cases same
        rw [decoded] at found
        exact ⟨signature.toTagged, Option.some.inj found, rfl⟩

theorem signatureOf_congr {headers headers' : Headers}
    (same : headers.first? signatureHeader = headers'.first? signatureHeader) :
    signatureOf headers = signatureOf headers' := by
  unfold signatureOf
  rw [same]

/-- The body is the one that the first digest speaks of; without a digest there is none. -/
def BodyCovered (request : Request) : Prop :=
  request.headers.first? digestHeader.name = some (contentDigest request.body) ∨
    request.headers.first? digestHeader.name = none ∧ request.body = []

theorem bodyMatches_iff {request : Request} : bodyMatches request = true ↔ BodyCovered request := by
  unfold bodyMatches BodyCovered
  cases request.headers.first? digestHeader.name with
  | none => simp
  | some declared => simp

variable [SignatureScheme]

theorem verifyParts_eq_ok_iff {method path : String} {headers : Headers} {signature : Signature}
    {key : PublicKey} {u : Unit} :
    verifyParts method path headers signature key = .ok u ↔
      ∃ message, canonicalBytes method path headers = .ok message ∧
        key.verify message signature = true := by
  unfold verifyParts
  rw [bind_eq_ok_iff]
  refine exists_congr fun message => and_congr_right fun _ => ?_
  by_cases genuine : key.verify message signature = true
  · simp [genuine]
  · simp only [genuine, Bool.false_eq_true, if_false, iff_false]
    change Except.error _ ≠ _
    simp

theorem Request.verify_eq_ok_iff {request : Request} {key : PublicKey} {u : Unit} :
    request.verify key = .ok u ↔
      ∃ signature message, signatureOf request.headers = .ok signature ∧ BodyCovered request ∧
        request.covered = .ok message ∧ key.verify message signature = true := by
  unfold Request.verify
  rw [bind_eq_ok_iff]
  refine exists_congr fun signature => ?_
  rw [← bodyMatches_iff]
  by_cases covered : bodyMatches request = true
  · simp only [covered, Bool.not_true, Bool.false_eq_true, if_false]
    rw [verifyParts_eq_ok_iff]
    simp [Request.covered]
  · simp only [covered]
    change _ ∧ Except.error _ = _ ↔ _
    simp

/-- What verification looks at. -/
theorem Request.verify_congr {request other : Request} (key : PublicKey)
    (method : request.method = other.method)
    (path : request.target.signedPath = other.target.signedPath)
    (covered : ∀ header ∈ signedHeaders,
      request.headers.values header.name = other.headers.values header.name)
    (signature : request.headers.first? signatureHeader = other.headers.first? signatureHeader)
    (body : request.body = other.body) : request.verify key = other.verify key := by
  have digest : request.headers.first? digestHeader.name = other.headers.first? digestHeader.name := by
    rw [Headers.first?, covered digestHeader (by decide), Headers.first?]
  have matched : bodyMatches request = bodyMatches other := by
    simp only [bodyMatches, digest, body]
  simp only [Request.verify, signatureOf_congr signature, matched, verifyParts, method, path,
    canonicalBytes_congr covered]

/-- The request with one digest of its body. -/
def Request.withDigest (request : Request) : Request :=
  { request with
    headers := request.headers.set digestHeader.name (contentDigest request.body) }

/-- The request with one signature: tagged, in base64. -/
def Request.withSignature (request : Request) (signature : Signature) : Request :=
  { request with
    headers := request.headers.set signatureHeader (Base64.standard.encode (1 :: signature.raw)) }

omit [SignatureScheme] in
theorem Request.values_withSignature {request : Request} {signature : Signature} {name : HeaderName}
    (no_digest : digestHeader.name ≠ name) (no_signature : signatureHeader ≠ name) :
    (request.withDigest.withSignature signature).headers.values name = request.headers.values name :=
  (Headers.values_set_of_ne _ _ no_signature).trans (Headers.values_set_of_ne _ _ no_digest)

theorem Request.sign_eq_ok_iff {request signed : Request} {key : PrivateKey} :
    request.sign key = .ok signed ↔
      ∃ message, request.withDigest.covered = .ok message ∧
        signed = request.withDigest.withSignature (key.sign message) := by
  simp only [Request.sign, signParts, bind_eq_ok_iff, pure_eq_ok_iff]
  constructor
  · rintro ⟨_, ⟨message, wrote, rfl⟩, rfl⟩
    exact ⟨message, wrote, rfl⟩
  · rintro ⟨message, wrote, rfl⟩
    exact ⟨_, ⟨message, wrote, rfl⟩, rfl⟩

/-- A request with a digest of its body and a signature of itself, and no others. -/
structure SignedBy (key : PrivateKey) (request : Request) (message : Bytes) : Prop where
  wrote : request.covered = .ok message
  digest : request.headers.values digestHeader.name = [contentDigest request.body]
  signature : request.headers.values signatureHeader =
    [Base64.standard.encode (1 :: (key.sign message).raw)]

theorem Request.signedBy_withSignature {request : Request} {message : Bytes} (key : PrivateKey)
    (wrote : request.withDigest.covered = .ok message) :
    SignedBy key (request.withDigest.withSignature (key.sign message)) message where
  wrote := (canonicalBytes_set_signature _ _ _ _).trans wrote
  digest := by
    have kept := signatureHeader_ne (by decide : digestHeader ∈ signedHeaders)
    exact (Headers.values_set_of_ne _ _ kept).trans (Headers.values_set_self _ _ _)
  signature := Headers.values_set_self _ _ _

theorem Request.signedBy_of_sign {request signed : Request} {key : PrivateKey}
    (signs : request.sign key = .ok signed) :
    ∃ message, request.withDigest.covered = .ok message ∧ SignedBy key signed message := by
  obtain ⟨message, wrote, rfl⟩ := Request.sign_eq_ok_iff.mp signs
  exact ⟨message, wrote, Request.signedBy_withSignature key wrote⟩

theorem Request.exists_sign {request : Request} {message : Bytes} (key : PrivateKey)
    (wrote : request.withDigest.covered = .ok message) : ∃ signed, request.sign key = .ok signed :=
  ⟨_, Request.sign_eq_ok_iff.mpr ⟨message, wrote, rfl⟩⟩

/-- Signing leaves method, target and body alone, and every header but two. -/
theorem Request.sign_frame {request signed : Request} {key : PrivateKey}
    (signs : request.sign key = .ok signed) :
    signed.method = request.method ∧ signed.target = request.target ∧ signed.body = request.body ∧
      ∀ name, digestHeader.name ≠ name → signatureHeader ≠ name →
        signed.headers.values name = request.headers.values name := by
  obtain ⟨message, -, rfl⟩ := Request.sign_eq_ok_iff.mp signs
  exact ⟨rfl, rfl, rfl, fun name => Request.values_withSignature⟩

namespace SignedBy
variable {key : PrivateKey} {request : Request} {message : Bytes}

theorem signatureOf_eq (signed : SignedBy key request message) :
    signatureOf request.headers = .ok (key.sign message) := by
  refine signatureOf_eq_ok_iff.mpr ⟨_, ?_, Base64.decode?_encode _⟩
  rw [Headers.first?, signed.signature]
  rfl

theorem bodyCovered (signed : SignedBy key request message) : BodyCovered request := by
  left
  rw [Headers.first?, signed.digest]
  rfl

theorem verify_eq_ok (signed : SignedBy key request message)
    (genuine : key.publicKey.verify message (key.sign message) = true) :
    request.verify key.publicKey = .ok () :=
  Request.verify_eq_ok_iff.mpr
    ⟨_, _, signed.signatureOf_eq, signed.bodyCovered, signed.wrote, genuine⟩

end SignedBy
end CertifiedAccess.Http
