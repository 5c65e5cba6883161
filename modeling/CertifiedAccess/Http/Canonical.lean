import CertifiedAccess.Bytes.Base64
import CertifiedAccess.Digest.Md5
import CertifiedAccess.Http.Headers
import CertifiedAccess.Wire.Codec

/-!
The octets that a request signature covers: a field with method and path, then a field for each signed
header that is present, in a fixed order. Absent headers take no octets, so that they differ from empty
ones.
-/
namespace CertifiedAccess.Http

inductive Malformation where
  | notAscii (header : String)
  | signatureNotBase64
  | wire (error : WireError)
  deriving DecidableEq

def Malformation.message : Malformation → String
  | .notAscii header => "non-ASCII value in " ++ header
  | .signatureNotBase64 => "signature is not base64"
  | .wire error => error.message

inductive RequestError where
  | missingSignature
  | signatureValidationFailed
  | malformed (reason : Malformation)
  deriving DecidableEq

def RequestError.message : RequestError → String
  | .missingSignature => "missing request signature"
  | .signatureValidationFailed => "signature validation failed"
  | .malformed reason => "malformed request: " ++ reason.message

/-- A header by the name under which it is signed. -/
structure SignedHeader where
  label : String
  name : HeaderName
  deriving DecidableEq

def certificateHeader : SignedHeader := ⟨"X-Certificate", ⟨"x-certificate"⟩⟩

def digestHeader : SignedHeader := ⟨"Content-MD5", ⟨"content-md5"⟩⟩

def dateHeader : SignedHeader := ⟨"Date", ⟨"date"⟩⟩

def rangeHeader : SignedHeader := ⟨"Range", ⟨"range"⟩⟩

/-- The headers that a signature covers, in the order in which they are signed. -/
def signedHeaders : List SignedHeader :=
  [certificateHeader, digestHeader, dateHeader, rangeHeader]

/-- Holds the signature; it is not signed itself. -/
def signatureHeader : HeaderName := ⟨"x-signature"⟩

def canonicalField (bytes : Bytes) : Except RequestError Bytes :=
  (Wire.field bytes).mapError fun e => .malformed (.wire e)

def joinedValues (values : List HeaderValue) : Bytes :=
  (values.intersperse [44]).flatten

/-- What a signed header adds: nothing when it is absent, else its name, a colon and its values. -/
def canonicalHeader (headers : Headers) (header : SignedHeader) : Except RequestError Bytes :=
  let values := headers.values header.name
  if values.isEmpty then .ok []
  else if values.all HeaderValue.isVisible then
    canonicalField (Text.utf8 header.label ++ 58 :: joinedValues values)
  else .error (.malformed (.notAscii header.label))

/-- The octets that a signature covers; of several failures the first is told. -/
def canonicalBytes (method path : String) (headers : Headers) : Except RequestError Bytes := do
  let line ← canonicalField (Text.utf8 (method ++ " " ++ path))
  let rest ← signedHeaders.mapM (canonicalHeader headers)
  return line ++ rest.flatten

/-- The digest of a body as a header's value: its MD5 in base64. -/
def contentDigest (body : Bytes) : HeaderValue :=
  Base64.standard.encode (Md5.digest body)

end CertifiedAccess.Http
