import CertifiedAccess.Bytes.Base64
import CertifiedAccess.Text.Blank
import CertifiedAccess.Text.Utf8
import CertifiedAccess.Wire.Error

/-!
Tagged octets: keys and signatures travel behind one octet that names their mechanism. Their length is
given by what encloses them.
-/
namespace CertifiedAccess

inductive Mechanism where
  | ed25519
  deriving DecidableEq

namespace Mechanism

def tag : Mechanism → UInt8
  | .ed25519 => 1

def ofTag (tag : UInt8) : Except WireError Mechanism :=
  if tag = 1 then .ok .ed25519 else .error (.unknownMechanism tag)

def name : Mechanism → String
  | .ed25519 => "ed25519"

def publicKeyLength : Mechanism → Nat
  | .ed25519 => 32

def signatureLength : Mechanism → Nat
  | .ed25519 => 64

end Mechanism

structure Tagged where
  mechanism : Mechanism
  payload : Bytes
  deriving DecidableEq

namespace Tagged

def encode (tagged : Tagged) : Bytes :=
  tagged.mechanism.tag :: tagged.payload

/-- The first octet is the tag, all others are payload. -/
def decode : Bytes → Except WireError Tagged
  | [] => .error (.truncated 1 0)
  | tag :: payload => do return ⟨← Mechanism.ofTag tag, payload⟩

end Tagged

def PrivateKey.mechanism (_ : PrivateKey) : Mechanism := .ed25519

def PublicKey.mechanism (_ : PublicKey) : Mechanism := .ed25519

def Signature.mechanism (_ : Signature) : Mechanism := .ed25519

def PublicKey.toTagged (key : PublicKey) : Tagged :=
  ⟨key.mechanism, key.raw⟩

def Signature.toTagged (signature : Signature) : Tagged :=
  ⟨signature.mechanism, signature.raw⟩

/-- A failure to make a key or signature of octets, as a failure to read them. -/
def liftKeyError {α : Type} (result : Except KeyError α) : Except WireError α :=
  result.mapError .invalidKey

def Signature.ofTagged (tagged : Tagged) : Except WireError Signature :=
  match tagged.mechanism with
  | .ed25519 => liftKeyError (Signature.ofBytes tagged.payload)

def PublicKey.ofTagged [SignatureScheme] (tagged : Tagged) : Except WireError PublicKey :=
  match tagged.mechanism with
  | .ed25519 => liftKeyError (PublicKey.ofBytes tagged.payload)

/-- The octets written by a base64 text; white space around it is ignored. -/
def decodeBase64 (text : String) : Except WireError Bytes :=
  match Base64.decode? (Text.utf8 (Text.trim text)) with
  | some bytes => .ok bytes
  | none => .error .invalidBase64

def encodeBase64 (bytes : Bytes) : String :=
  Text.ofAscii (Base64.standard.encode bytes)

/-- The tagged key in base64, as settings hold it. -/
def PublicKey.toBase64 (key : PublicKey) : String :=
  encodeBase64 key.toTagged.encode

def PublicKey.ofBase64 [SignatureScheme] (text : String) : Except WireError PublicKey := do
  PublicKey.ofTagged (← Tagged.decode (← decodeBase64 text))

end CertifiedAccess
