import CertifiedAccess.Bytes.Base64
import CertifiedAccess.Digest.Sha256
import CertifiedAccess.Key.Basic
import CertifiedAccess.Text.Utf8

/-!
Fingerprints: short names for public keys, fit for logs.
-/
namespace CertifiedAccess

structure Fingerprint where
  text : String
  deriving DecidableEq

namespace Fingerprint

/-- What every fingerprint starts with: the digest it is made by. -/
def scheme : String := "SHA256:"

/-- The digest's name, then the key's digest in base64 that is safe in addresses. -/
def ofPublicKey (key : PublicKey) : Fingerprint :=
  ⟨scheme ++ Text.ofAscii (Base64.urlSafe.encode (Sha256.digest key.raw))⟩

def summary (f : Fingerprint) : String := "Fingerprint(" ++ f.text ++ ")"

end Fingerprint

/-- A key as it is shown in a log: by its fingerprint. -/
def PublicKey.summary (key : PublicKey) : String :=
  "PublicKey(" ++ (Fingerprint.ofPublicKey key).text ++ ")"

end CertifiedAccess
