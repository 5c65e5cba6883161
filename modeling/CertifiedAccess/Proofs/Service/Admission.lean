import CertifiedAccess.Key.Ed25519
import CertifiedAccess.Proofs.Certificate.Validity
import CertifiedAccess.Proofs.Http.Verification
import CertifiedAccess.Service.Gate

/-!
What a gate's verdict rests on. A request is authenticated with a certificate exactly when the octets of
its headers say so all the way down; otherwise the verdict names the first group of conditions that fails.
-/
namespace CertifiedAccess.Gate
open Http

section
variable [SignatureScheme] {π : Type} [Wire.Codec π]

/-- The header's value is base64 text, white space around it aside, of the sealed certificate. -/
def Presents (value : HeaderValue) (c : Certificate π) : Prop :=
  ∃ text bytes, value = Text.utf8 text ∧
    Base64.decode? (Text.utf8 (Text.trim text)) = some bytes ∧ c.IsSealedAs bytes

/-- Whoever has the sealed octets can present them. -/
theorem presents_encodeBase64 {c : Certificate π} {bytes : Bytes} (sealed_as : c.IsSealedAs bytes) :
    Presents (Text.utf8 (encodeBase64 bytes)) c :=
  ⟨_, bytes, rfl, decodeBase64_eq_ok_iff.mp (decodeBase64_encodeBase64 bytes), sealed_as⟩

/-- The certificate is in the header and acceptable now. -/
structure Admits (gate : Gate) (value : HeaderValue) (now : Instant) (c : Certificate π) : Prop where
  presented : Presents value c
  issuer : c.issuer ∈ gate.trusted.keys
  unexpired : now ≤ c.expiresAt

/-- The key accepts the request's first signature over all that is signed, and the body is the one
that the first digest speaks of. -/
def SignedUnder (request : Request) (key : PublicKey) : Prop :=
  ∃ value signature message, request.headers.first? signatureHeader = some value ∧
    Base64.decode? value = some (1 :: signature.raw) ∧
    canonicalBytes request.method.name request.target.signedPath request.headers = .ok message ∧
    key.verify message signature = true ∧
    (request.headers.first? digestHeader.name = some (contentDigest request.body) ∨
      request.headers.first? digestHeader.name = none ∧ request.body = [])

/-- All that a request needs so that it can be attributed to a certificate. -/
structure Warrants (gate : Gate) (request : Request) (now : Instant) (c : Certificate π) : Prop where
  certificate : ∃ value, request.headers.first? certificateHeader.name = some value ∧
    gate.Admits value now c
  body : request.body.length ≤ gate.maxBodyBytes
  signature : SignedUnder request c.client

theorem verify_eq_ok_iff_signedUnder {request : Request} {key : PublicKey} :
    request.verify key = .ok () ↔ SignedUnder request key := by
  simp only [Request.verify_eq_ok_iff, signatureOf_eq_ok_iff, SignedUnder, BodyCovered]
  constructor
  · rintro ⟨signature, message, ⟨value, found, decoded⟩, covered, wrote, genuine⟩
    exact ⟨value, signature, message, found, decoded, wrote, genuine, covered⟩
  · rintro ⟨value, signature, message, found, decoded, wrote, genuine, covered⟩
    exact ⟨signature, message, ⟨value, found, decoded⟩, covered, wrote, genuine⟩

theorem certificateIn_eq_ok_iff_validate {gate : Gate} {value : HeaderValue} {now : Instant}
    {c : Certificate π} :
    gate.certificateIn value now = .ok c ↔ ∃ text bytes, value = Text.utf8 text ∧
      Base64.decode? (Text.utf8 (Text.trim text)) = some bytes ∧
      Certificate.validate gate.trusted bytes now = .ok c := by
  unfold certificateIn
  constructor
  · intro found
    cases read : Text.ofUtf8? value with
    | none =>
      rw [read] at found
      contradiction
    | some text =>
      rw [read] at found
      obtain ⟨bytes, decoded, valid⟩ := bind_eq_ok_iff.mp found
      rw [mapError_eq_ok_iff, decodeBase64_eq_ok_iff] at decoded
      exact ⟨text, bytes, Text.ofUtf8?_eq_some_iff.mp read, decoded, valid⟩
  · rintro ⟨text, bytes, rfl, decoded, valid⟩
    rw [Text.ofUtf8?_utf8]
    refine bind_eq_ok_iff.mpr ⟨bytes, ?_, valid⟩
    rwa [mapError_eq_ok_iff, decodeBase64_eq_ok_iff]

/-- A gate takes certificates from the issuers that it trusts, whatever the payload's form. -/
theorem issuer_mem_of_certificateIn {gate : Gate} {value : HeaderValue} {now : Instant}
    {c : Certificate π} (found : gate.certificateIn value now = .ok c) :
    c.issuer ∈ gate.trusted.keys := by
  obtain ⟨_, _, -, -, valid⟩ := certificateIn_eq_ok_iff_validate.mp found
  exact (Certificate.validate_eq_ok_iff_isGenuine.mp valid).2.1

/-- Whom a gate names has presented the certificate that it is named with. -/
theorem certificateIn_of_authenticate {gate : Gate} {request : Request} {now : Instant}
    {caller : Caller π} (named : gate.authenticate request now = .authenticated caller) :
    ∃ value, request.headers.first? certificateHeader.name = some value ∧
      gate.certificateIn value now = .ok caller.certificate := by
  unfold authenticate examine at named
  cases present : request.headers.first? certificateHeader.name with
  | none =>
    rw [present] at named
    contradiction
  | some value =>
    cases admission : gate.certificateIn (π := π) value now with
    | error e =>
      simp only [present, admission] at named
      contradiction
    | ok c =>
      simp only [present, admission] at named
      split at named
      · contradiction
      · split at named
        · contradiction
        · cases named
          exact ⟨value, rfl, admission⟩

variable [Wire.Canonical π]

theorem certificateIn_eq_ok_iff {gate : Gate} {value : HeaderValue} {now : Instant}
    {c : Certificate π} :
    gate.certificateIn value now = .ok c ↔ c.IsReadable ∧ gate.Admits value now c := by
  rw [certificateIn_eq_ok_iff_validate]
  simp only [Certificate.validate_eq_ok_iff]
  constructor
  · rintro ⟨text, bytes, wrote, decoded, readable, sealed_as, issuer, unexpired⟩
    exact ⟨readable, ⟨text, bytes, wrote, decoded, sealed_as⟩, issuer, unexpired⟩
  · rintro ⟨readable, ⟨text, bytes, wrote, decoded, sealed_as⟩, issuer, unexpired⟩
    exact ⟨text, bytes, wrote, decoded, readable, sealed_as, issuer, unexpired⟩

/-- The verdicts that a request deserves, group by group. -/
inductive Deserves (gate : Gate) (request : Request) (now : Instant) : Verdict π → Prop where
  | noCredentials (absent : request.headers.first? certificateHeader.name = none) :
    Deserves gate request now (.anonymous .noCredentials)
  | invalidCertificate {value : HeaderValue}
    (present : request.headers.first? certificateHeader.name = some value)
    (refused : ∀ c : Certificate π, c.IsReadable → ¬ gate.Admits value now c) :
    Deserves gate request now (.anonymous .invalidCertificate)
  | bodyTooLarge {value : HeaderValue} {c : Certificate π}
    (present : request.headers.first? certificateHeader.name = some value)
    (readable : c.IsReadable) (admitted : gate.Admits value now c)
    (large : gate.maxBodyBytes < request.body.length) :
    Deserves gate request now (.anonymous .bodyTooLarge)
  | signatureValidationFailed {value : HeaderValue} {c : Certificate π}
    (present : request.headers.first? certificateHeader.name = some value)
    (readable : c.IsReadable) (admitted : gate.Admits value now c)
    (small : request.body.length ≤ gate.maxBodyBytes)
    (unsigned : ¬ SignedUnder request c.client) :
    Deserves gate request now (.anonymous .signatureValidationFailed)
  | authenticated {c : Certificate π} (readable : c.IsReadable)
    (warranted : gate.Warrants request now c) :
    Deserves gate request now (.authenticated ⟨c, Fingerprint.ofPublicKey c.client⟩)

theorem deserves_authenticate (gate : Gate) (request : Request) (now : Instant) :
    Deserves gate request now (gate.authenticate request now : Verdict π) := by
  unfold authenticate examine
  cases present : request.headers.first? certificateHeader.name with
  | none => exact .noCredentials present
  | some value =>
    cases admission : gate.certificateIn (π := π) value now with
    | error e =>
      simp only [admission]
      refine .invalidCertificate present ?_
      intro c readable admitted
      have found := certificateIn_eq_ok_iff.mpr ⟨readable, admitted⟩
      rw [admission] at found
      contradiction
    | ok c =>
      obtain ⟨readable, admitted⟩ := certificateIn_eq_ok_iff.mp admission
      by_cases large : gate.maxBodyBytes < request.body.length
      · simp only [admission, large, if_true]
        exact .bodyTooLarge present readable admitted large
      · have small := Nat.not_lt.mp large
        simp only [admission, large, if_false]
        cases checked : request.verify c.client with
        | error e =>
          refine .signatureValidationFailed present readable admitted small ?_
          intro signed
          rw [verify_eq_ok_iff_signedUnder.mpr signed] at checked
          contradiction
        | ok _ =>
          have signed := verify_eq_ok_iff_signedUnder.mp checked
          exact .authenticated readable ⟨⟨value, present, admitted⟩, small, signed⟩

theorem authenticate_of_deserves {gate : Gate} {request : Request} {now : Instant}
    {verdict : Verdict π} (deserved : gate.Deserves request now verdict) :
    gate.authenticate request now = verdict := by
  unfold authenticate examine
  cases deserved with
  | noCredentials absent => simp only [absent]
  | @invalidCertificate value present refused =>
    cases admission : gate.certificateIn (π := π) value now with
    | error e => simp only [present, admission]
    | ok c =>
      obtain ⟨readable, admitted⟩ := certificateIn_eq_ok_iff.mp admission
      exact absurd admitted (refused c readable)
  | bodyTooLarge present readable admitted large =>
    have admission := certificateIn_eq_ok_iff.mpr ⟨readable, admitted⟩
    simp only [present, admission, large, if_true]
  | @signatureValidationFailed value c present readable admitted small unsigned =>
    have admission := certificateIn_eq_ok_iff.mpr ⟨readable, admitted⟩
    cases checked : request.verify c.client with
    | error e => simp only [present, admission, Nat.not_lt.mpr small, if_false, checked]
    | ok _ => exact absurd (verify_eq_ok_iff_signedUnder.mp checked) unsigned
  | authenticated readable warranted =>
    obtain ⟨⟨value, present, admitted⟩, small, signed⟩ := warranted
    have admission := certificateIn_eq_ok_iff.mpr ⟨readable, admitted⟩
    have checked := verify_eq_ok_iff_signedUnder.mpr signed
    simp only [present, admission, Nat.not_lt.mpr small, if_false, checked]

/-- A gate gives each request the verdict that it deserves, and no other. -/
theorem authenticate_eq_iff_deserves {gate : Gate} {request : Request} {now : Instant}
    {verdict : Verdict π} :
    gate.authenticate request now = verdict ↔ gate.Deserves request now verdict := by
  constructor
  · rintro rfl
    exact deserves_authenticate gate request now
  · exact authenticate_of_deserves

end

/-! A certificate that runs out inside a leap second has the wire form of another, which is the one that a
gate speaks of. -/
namespace LeapSecond

def issuer : PrivateKey := ⟨List.replicate 32 1, by decide⟩

def client : PrivateKey := ⟨List.replicate 32 2, by decide⟩

/-- Half a second into the leap second at the end of 2016. -/
def expiry : Instant := ⟨1483228799, 1500000000, by decide, by decide, by decide, by decide⟩

def certificate : Certificate Unit :=
  .make issuer.publicKey client.publicKey expiry RoleMask.empty ()

def content : Bytes :=
  match certificate.encode with
  | .ok octets => octets
  | .error _ => []

def sealedCertificate : Bytes :=
  content ++ (Bytes.bigEndian 4 65 ++ 1 :: (issuer.sign content).raw)

def gate : Gate := ⟨⟨[issuer.publicKey], by simp⟩, 1000⟩

def now : Instant := ⟨1483228000, 1000000, by decide, by decide, by decide, by decide⟩

def unsignedRequest : Request where
  method := ⟨"GET", by decide⟩
  target := .origin "/"
  headers := Headers.none.set certificateHeader.name (Text.utf8 (encodeBase64 sealedCertificate))
  body := []

def message : Bytes :=
  (canonicalParts "GET" "/" unsignedRequest.withDigest.headers).flatMap framed

def request : Request :=
  unsignedRequest.withDigest.withSignature (client.sign message)

theorem presents_certificate :
    Presents (Text.utf8 (encodeBase64 sealedCertificate)) certificate := by
  have wrote : certificate.encode = .ok content := by decide +kernel
  have genuine : certificate.issuer.verify content (issuer.sign content) = true := by
    decide +kernel
  exact presents_encodeBase64 ⟨content, issuer.sign content, wrote, rfl, genuine⟩

theorem signedUnder_client : SignedUnder request certificate.client := by
  have formed : unsignedRequest.withDigest.covered = .ok message := by decide +kernel
  have genuine : client.publicKey.verify message (client.sign message) = true := by
    decide +kernel
  have signed : SignedBy client request message := Request.signedBy_withSignature client formed
  exact verify_eq_ok_iff_signedUnder.mp (signed.verify_eq_ok genuine)

theorem warrants_certificate : gate.Warrants request now certificate where
  certificate := by
    refine ⟨_, ?_, presents_certificate, List.mem_singleton.mpr rfl, by decide⟩
    have kept : request.headers.values certificateHeader.name =
        unsignedRequest.headers.values certificateHeader.name :=
      Request.values_withSignature (by decide) (by decide)
    rw [Headers.first?, kept, unsignedRequest, Headers.values_set_self, List.head?_cons]
  body := Nat.zero_le _
  signature := signedUnder_client

theorem authenticate_ne_certificate :
    gate.Warrants request now certificate ∧
      ∀ fingerprint, gate.authenticate request now ≠ .authenticated ⟨certificate, fingerprint⟩ := by
  refine ⟨warrants_certificate, ?_⟩
  intro fingerprint same
  have deserved := deserves_authenticate (π := Unit) gate request now
  rw [same] at deserved
  cases deserved with
  | authenticated readable warranted =>
    have ordinary : expiry.isLeap = false := readable.expiry.1
    exact absurd ordinary (by decide)

end LeapSecond
end CertifiedAccess.Gate
