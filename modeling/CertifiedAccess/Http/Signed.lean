import CertifiedAccess.Http.Canonical
import CertifiedAccess.Http.Request

/-!
Signed requests. The client puts the body's digest and a signature into the headers; the service makes
the canonical form of what it received and verifies the signature against it.
-/
namespace CertifiedAccess.Http
variable [SignatureScheme]

def signParts (method path : String) (headers : Headers) (key : PrivateKey) :
    Except RequestError Signature := do
  return key.sign (← canonicalBytes method path headers)

def verifyParts (method path : String) (headers : Headers) (signature : Signature)
    (key : PublicKey) : Except RequestError Unit := do
  let message ← canonicalBytes method path headers
  if key.verify message signature then return () else throw .signatureValidationFailed

/-- The signature in the first signature header: tagged octets in base64 without blanks around it. -/
def signatureOf (headers : Headers) : Except RequestError Signature :=
  match headers.first? signatureHeader with
  | none => .error .missingSignature
  | some value =>
    match Base64.decode? value with
    | none => .error (.malformed .signatureNotBase64)
    | some bytes =>
      (do Signature.ofTagged (← Tagged.decode bytes)).mapError fun e => .malformed (.wire e)

/-- Whether the body is the one that the headers speak of. A body that no digest covers could be
exchanged freely, so it must be empty. -/
def bodyMatches (request : Request) : Bool :=
  match request.headers.first? digestHeader.name with
  | some declared => declared == contentDigest request.body
  | none => request.body.isEmpty

/-- The request with its digest and its signature. A certificate must be in it already to be signed. -/
def Request.sign (request : Request) (key : PrivateKey) : Except RequestError Request := do
  let headers := request.headers.set digestHeader.name (contentDigest request.body)
  let signature ← signParts request.method.name request.target.signedPath headers key
  return { request with
    headers := headers.set signatureHeader (Base64.standard.encode signature.toTagged.encode) }

/-- Whether a key signed the request. The form of the signature is looked at first, then the body. -/
def Request.verify (request : Request) (key : PublicKey) : Except RequestError Unit := do
  let signature ← signatureOf request.headers
  if !bodyMatches request then throw .signatureValidationFailed
  verifyParts request.method.name request.target.signedPath request.headers signature key

end CertifiedAccess.Http
