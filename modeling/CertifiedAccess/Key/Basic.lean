import CertifiedAccess.Bytes

/-!
Keys and signatures of a signature scheme. Keys and signatures are values of fixed length, compared by
their octets; which octets denote a key and what a signature means is left to the scheme.
-/
namespace CertifiedAccess

inductive KeyError where
  | invalidLength (expected actual : Nat)
  | invalidFormat
  deriving DecidableEq

def KeyError.message : KeyError → String
  | .invalidLength expected actual =>
    "invalid key length: expected " ++ expected.repr ++ ", got " ++ actual.repr
  | .invalidFormat => "invalid key format"

/-- A signing key: the seed that everything secret is derived from. -/
structure PrivateKey where
  seed : Bytes
  length_seed : seed.length = 32

structure PublicKey where
  raw : Bytes
  length_raw : raw.length = 32
  deriving DecidableEq

structure Signature where
  raw : Bytes
  length_raw : raw.length = 64
  deriving DecidableEq

/-- A deterministic signature scheme. -/
class SignatureScheme where
  /-- Whether the octets of a key denote one. -/
  denotes : PublicKey → Bool
  publicKey : PrivateKey → PublicKey
  sign : PrivateKey → Bytes → Signature
  /-- Whether the key accepts the signature of the message. -/
  accepts : PublicKey → Bytes → Signature → Bool

def PrivateKey.ofBytes (bytes : Bytes) : Except KeyError PrivateKey :=
  if h : bytes.length = 32 then .ok ⟨bytes, h⟩ else .error (.invalidLength 32 bytes.length)

/-- The signature in these octets. Whether any key accepts it is another matter. -/
def Signature.ofBytes (bytes : Bytes) : Except KeyError Signature :=
  if h : bytes.length = 64 then .ok ⟨bytes, h⟩ else .error (.invalidLength 64 bytes.length)

/-- The first four octets of a signature, enough to tell it from others in a log. -/
def Signature.summary (s : Signature) : String :=
  "Signature(" ++ Bytes.toHex (s.raw.take 4) ++ "...)"

section
variable [SignatureScheme]

/-- The key in these octets, if they denote one. The octets are kept as they are. -/
def PublicKey.ofBytes (bytes : Bytes) : Except KeyError PublicKey :=
  if h : bytes.length = 32 then
    if SignatureScheme.denotes ⟨bytes, h⟩ then .ok ⟨bytes, h⟩ else .error .invalidFormat
  else .error (.invalidLength 32 bytes.length)

/-- The key that accepts this key's signatures. -/
def PrivateKey.publicKey (key : PrivateKey) : PublicKey :=
  SignatureScheme.publicKey key

def PrivateKey.sign (key : PrivateKey) (message : Bytes) : Signature :=
  SignatureScheme.sign key message

def PublicKey.verify (key : PublicKey) (message : Bytes) (signature : Signature) : Bool :=
  SignatureScheme.accepts key message signature

end
end CertifiedAccess
