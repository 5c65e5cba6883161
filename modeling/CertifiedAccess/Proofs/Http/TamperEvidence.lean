import CertifiedAccess.Key.Ed25519
import CertifiedAccess.Proofs.Http.Verification

/-!
A signed request cannot be changed unnoticed. Whoever passes on its signature with another request is
accepted only if that request has the same method, path, signed headers and digest of the body: the
canonical form can be read in one way only, and the one digest that was signed is the one that the body
is held against.
-/
namespace CertifiedAccess.Http

theorem comma_notMem_contentDigest (body : Bytes) : 44 ∉ contentDigest body := by
  intro mem
  exact (Base64.isSymbol_of_mem_encode _ 44 mem).2.2 rfl

/-- Joined values without a comma are one value. -/
theorem eq_singleton_of_joinedValues_eq {values : List HeaderValue} {value : HeaderValue}
    (present : values ≠ []) (solid : 44 ∉ value) (joined : joinedValues values = value) :
    values = [value] := by
  match values with
  | [] => exact absurd rfl present
  | [only] => simpa [joinedValues] using joined
  | first :: second :: rest =>
    subst joined
    simp [joinedValues] at solid

section
variable [SignatureScheme]

/-- The signature that a request carries is accepted for no message but the request's own. -/
def FitsOnlyItself (request : Request) (key : PublicKey) : Prop :=
  ∀ signature message other, signatureOf request.headers = .ok signature →
    request.covered = .ok message → key.verify other signature = true → other = message

/-- Two accepted requests with one signature have one canonical form. -/
theorem SignedBy.covered_of_verify {key : PrivateKey} {request other : Request} {message : Bytes}
    (signed : SignedBy key request message) (fits : FitsOnlyItself request key.publicKey)
    (carried : other.headers.first? signatureHeader = request.headers.first? signatureHeader)
    (accepted : other.verify key.publicKey = .ok ()) : other.covered = .ok message := by
  obtain ⟨signature, message', found, -, wrote, genuine⟩ := Request.verify_eq_ok_iff.mp accepted
  rw [signatureOf_congr carried] at found
  rw [fits signature message message' found signed.wrote genuine] at wrote
  exact wrote

theorem Request.sameSigned_of_verify {unsigned request other : Request} {key : PrivateKey}
    (signs : unsigned.sign key = .ok request) (fits : FitsOnlyItself request key.publicKey)
    (carried : other.headers.first? signatureHeader = request.headers.first? signatureHeader)
    (accepted : other.verify key.publicKey = .ok ()) :
    SameSigned other request ∧ (∃ value, other.headers.values digestHeader.name = [value]) ∧
      contentDigest other.body = contentDigest request.body := by
  obtain ⟨message, -, signed⟩ := Request.signedBy_of_sign signs
  have wrote := signed.covered_of_verify fits carried accepted
  have same := sameSigned_of_covered_eq wrote signed.wrote
  have known : digestHeader ∈ signedHeaders := by decide
  have present : other.headers.values digestHeader.name ≠ [] := by
    intro absent
    have gone := (same.presence digestHeader known).mp absent
    rw [signed.digest] at gone
    contradiction
  have joined := same.joined digestHeader known
  rw [signed.digest] at joined
  have declared : other.headers.values digestHeader.name = [contentDigest request.body] :=
    eq_singleton_of_joinedValues_eq present (comma_notMem_contentDigest _)
      (joined.trans (by simp [joinedValues]))
  refine ⟨same, ⟨_, declared⟩, ?_⟩
  obtain ⟨_, _, -, covered, -, -⟩ := Request.verify_eq_ok_iff.mp accepted
  rw [BodyCovered, Headers.first?, declared] at covered
  rcases covered with same_digest | ⟨absent, -⟩
  · exact (Option.some.inj same_digest).symm
  · contradiction

end

/-- Ed25519 where no key accepts a signature of any message but this one. -/
@[reducible] def ed25519Only (message : Bytes) : SignatureScheme :=
  { ed25519 with accepts := fun key other signature =>
      if other = message then @PublicKey.verify ed25519 key other signature else false }

theorem verify_ed25519Only (message other : Bytes) (key : PublicKey) (signature : Signature) :
    @PublicKey.verify (ed25519Only message) key other signature =
      if other = message then @PublicKey.verify ed25519 key other signature else false :=
  rfl

theorem verify_ed25519Only_iff {message other : Bytes} {key : PublicKey} {signature : Signature} :
    @PublicKey.verify (ed25519Only message) key other signature = true ↔
      @PublicKey.verify ed25519 key other signature = true ∧ other = message := by
  rw [verify_ed25519Only]
  by_cases same : other = message
  · simp [same]
  · simp [same]

namespace Sample

def key : PrivateKey := ⟨List.replicate 32 7, by decide⟩

/-- An order with a date and a body, not signed yet. -/
def order : Request where
  method := ⟨"PUT", by decide⟩
  target := .origin "/orders?page=2"
  headers := ⟨[(dateHeader.name, Text.utf8 "today")]⟩
  body := Text.utf8 "hello"

/-- What a signature of the order covers. -/
def message : Bytes :=
  (canonicalParts "PUT" "/orders?page=2" order.withDigest.headers).flatMap framed

/-- The same request to a named host, with a header that is not signed. -/
def rerouted (request : Request) : Request :=
  { request with
    target := .absolute "https" "example.org" "/orders?page=2"
    headers := request.headers.append ⟨"accept"⟩ (Text.utf8 "text/html") }

theorem values_rerouted (request : Request) {name : HeaderName} (other : ⟨"accept"⟩ ≠ name) :
    (rerouted request).headers.values name = request.headers.values name :=
  request.headers.values_append_of_ne _ other

theorem first?_signature_rerouted (request : Request) :
    (rerouted request).headers.first? signatureHeader = request.headers.first? signatureHeader :=
  congrArg List.head? (values_rerouted request (by decide))

section
local instance : SignatureScheme := ed25519Only message

/-- Nothing that verification looks at has changed. -/
theorem verify_rerouted {request : Request} (unmoved : request.target = order.target)
    (key : PublicKey) : (rerouted request).verify key = request.verify key := by
  have path : (rerouted request).target.signedPath = request.target.signedPath := by
    rw [unmoved]
    rfl
  have other : ∀ header ∈ signedHeaders, ⟨"accept"⟩ ≠ header.name := by decide
  have covered (header : SignedHeader) (known : header ∈ signedHeaders) :=
    values_rerouted request (other header known)
  exact Request.verify_congr key rfl path covered (first?_signature_rerouted request) rfl

theorem sameSigned_rerouted :
    ∃ request, order.sign key = .ok request ∧ SameSigned (rerouted request) request := by
  have formed : order.withDigest.covered = .ok message := by decide +kernel
  have genuine : key.publicKey.verify message (key.sign message) = true :=
    verify_ed25519Only_iff.mpr ⟨by decide +kernel, rfl⟩
  obtain ⟨request, signs⟩ := Request.exists_sign key formed
  obtain ⟨_, formed', signed⟩ := Request.signedBy_of_sign signs
  rw [← Except.ok.inj (formed.symm.trans formed')] at signed
  have fits : FitsOnlyItself request key.publicKey := by
    intro signature covered other _ wrote accepted
    have own : covered = message := Except.ok.inj (wrote.symm.trans signed.wrote)
    rw [own, (verify_ed25519Only_iff.mp accepted).2]
  have accepted : (rerouted request).verify key.publicKey = .ok () := by
    rw [verify_rerouted (Request.sign_frame signs).2.1]
    exact signed.verify_eq_ok genuine
  have carried := first?_signature_rerouted request
  exact ⟨request, signs, (Request.sameSigned_of_verify signs fits carried accepted).1⟩

end
end Sample
end CertifiedAccess.Http
