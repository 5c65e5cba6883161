import CertifiedAccess.Curve.EdDsa
import CertifiedAccess.Key.Basic

/-!
The scheme in use: Ed25519 with strict verification.
-/
namespace CertifiedAccess

instance ed25519 : SignatureScheme where
  denotes key := EdDsa.denotesPoint key.raw
  publicKey key := ⟨EdDsa.publicKey key.seed, EdDsa.length_publicKey key.seed⟩
  sign key message := ⟨EdDsa.sign key.seed message, EdDsa.length_sign key.seed message⟩
  accepts key message signature := EdDsa.verify key.raw message signature.raw

end CertifiedAccess
