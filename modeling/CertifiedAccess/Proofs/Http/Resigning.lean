import CertifiedAccess.Key.Ed25519
import CertifiedAccess.Proofs.Http.HeaderEdits
import CertifiedAccess.Proofs.Http.Verification

/-!
Signed requests are accepted under their own key, whatever digests and signatures stood in them before.
Signing one again changes nothing, and neither does any change of headers that verification does not look
at.
-/
namespace CertifiedAccess.Http

/-- The request with changes made to its headers. -/
def Request.edit (request : Request) (edits : List HeaderEdit) : Request :=
  { request with headers := request.headers.edit edits }

/-- The names of the headers that verification looks at. -/
def verifiedNames : List HeaderName := signatureHeader :: signedHeaders.map (·.name)

section
variable [SignatureScheme]

theorem Request.verify_edit {edits : List HeaderEdit}
    (unseen : ∀ edit ∈ edits, edit.name ∉ verifiedNames) (request : Request) (key : PublicKey) :
    (request.edit edits).verify key = request.verify key := by
  have kept (name : HeaderName) (seen : name ∈ verifiedNames) :
      (request.edit edits).headers.values name = request.headers.values name := by
    apply Headers.values_edit_of_untouched
    rintro edit mem rfl
    exact unseen edit mem seen
  apply Request.verify_congr key
  case method => rfl
  case path => rfl
  case covered =>
    intro header known
    exact kept header.name (List.mem_cons_of_mem _ (List.mem_map_of_mem known))
  case signature => exact congrArg List.head? (kept signatureHeader List.mem_cons_self)
  case body => rfl

namespace SignedBy
variable {key : PrivateKey} {request : Request} {message : Bytes}

/-- The digest that signing would put in is there already. -/
theorem values_withDigest (signed : SignedBy key request message) (name : HeaderName) :
    request.withDigest.headers.values name = request.headers.values name := by
  by_cases here : digestHeader.name = name
  · subst here
    exact (Headers.values_set_self _ _ _).trans signed.digest.symm
  · exact Headers.values_set_of_ne _ _ here

/-- So is the signature. -/
theorem values_withSignature (signed : SignedBy key request message) (name : HeaderName) :
    (request.withDigest.withSignature (key.sign message)).headers.values name =
      request.headers.values name := by
  by_cases here : signatureHeader = name
  · subst here
    exact (Headers.values_set_self _ _ _).trans signed.signature.symm
  · exact (Headers.values_set_of_ne _ _ here).trans (signed.values_withDigest name)

theorem covered_withDigest (signed : SignedBy key request message) :
    request.withDigest.covered = .ok message := by
  rw [← signed.wrote]
  exact canonicalBytes_congr fun header _ => signed.values_withDigest header.name

theorem sign_again (signed : SignedBy key request message) :
    request.sign key = .ok (request.withDigest.withSignature (key.sign message)) :=
  Request.sign_eq_ok_iff.mpr ⟨message, signed.covered_withDigest, rfl⟩

end SignedBy

/-- What signing gives is accepted, stays what it is when it is signed again, and is judged like any other
request by the five headers alone. -/
theorem Request.sign_stable {request signed : Request} {key : PrivateKey}
    (signs : request.sign key = .ok signed)
    (genuine : ∀ message, signed.covered = .ok message →
      key.publicKey.verify message (key.sign message) = true) :
    signed.verify key.publicKey = .ok () ∧
    (∃ again, signed.sign key = .ok again ∧ again.method = signed.method ∧
      again.target = signed.target ∧ again.body = signed.body ∧
      ∀ name, again.headers.values name = signed.headers.values name) ∧
    ∀ (other : Request) (reader : PublicKey) (edits : List HeaderEdit),
      (∀ edit ∈ edits, edit.name ∉ verifiedNames) →
        (other.edit edits).verify reader = other.verify reader := by
  obtain ⟨message, -, by_key⟩ := Request.signedBy_of_sign signs
  refine ⟨by_key.verify_eq_ok (genuine message by_key.wrote), ?_, ?_⟩
  · exact ⟨_, by_key.sign_again, rfl, rfl, rfl, by_key.values_withSignature⟩
  · intro other reader edits unseen
    exact other.verify_edit unseen reader

end

/-! A request to a bare host, with two digests and a signature from before. -/
namespace Stale

def key : PrivateKey := ⟨List.replicate 32 8, List.length_replicate⟩

def request : Request where
  method := ⟨"HEAD", by decide⟩
  target := .host "example.org"
  headers := ⟨[(digestHeader.name, Text.utf8 "old"), (signatureHeader, Text.utf8 "none"),
    (digestHeader.name, Text.utf8 "older")]⟩
  body := []

/-- What a signature of it covers. -/
def message : Bytes :=
  (canonicalParts "HEAD" "/" request.withDigest.headers).flatMap framed

def forwarded : List HeaderEdit :=
  [.append ⟨"via"⟩ (Text.utf8 "proxy"), .set ⟨"accept"⟩ (Text.utf8 "text/html"), .remove ⟨"cookie"⟩]

theorem verify_forwarded :
    ∃ signed again, request.sign key = .ok signed ∧
      (signed.edit forwarded).verify key.publicKey = .ok () ∧ signed.sign key = .ok again ∧
      again.headers.values signatureHeader = signed.headers.values signatureHeader := by
  have formed : request.withDigest.covered = .ok message := by decide +kernel
  obtain ⟨signed, signs⟩ := Request.exists_sign key formed
  have genuine (other : Bytes) (wrote : signed.covered = .ok other) :
      key.publicKey.verify other (key.sign other) = true := by
    obtain ⟨_, formed', by_key⟩ := Request.signedBy_of_sign signs
    have own : other = message := by
      rw [by_key.wrote, ← formed', formed] at wrote
      exact (Except.ok.inj wrote).symm
    subst own
    decide +kernel
  obtain ⟨accepted, ⟨again, signs', -, -, -, same⟩, judged⟩ := Request.sign_stable signs genuine
  refine ⟨signed, again, signs, ?_, signs', same signatureHeader⟩
  rw [judged signed key.publicKey forwarded (by decide +kernel)]
  exact accepted

end Stale
end CertifiedAccess.Http
