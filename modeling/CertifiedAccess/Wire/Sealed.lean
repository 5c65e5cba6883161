import CertifiedAccess.Wire.Codec

/-!
Sealed values: a value's wire form, then a field with a tagged signature over exactly those octets. To
open one, the value is read to find where it ends; the octets it was read from are what the signature
must cover, and they are never written anew.
-/
namespace CertifiedAccess.Wire

/-- A value whose signature has been checked, and the octets that the signature covers. -/
structure Verified (α : Type) where
  value : α
  signed : Bytes
  deriving DecidableEq

/-- A sealed value taken apart, with nothing verified. -/
structure Frame (α : Type) where
  value : α
  signed : Bytes
  signature : Signature
  deriving DecidableEq

/-- What follows the wire form: a field that holds the tagged signature. -/
def signatureField (signature : Signature) : Bytes :=
  Bytes.bigEndian 4 signature.toTagged.encode.length ++ signature.toTagged.encode

/-- Refuses octets that are left over. -/
def Read.finish : Read Unit := do
  let left := (← get).remaining
  if left ≠ 0 then throw (.trailingBytes left)

/-- The value that a read from the start of `bytes` ends with. -/
def Read.run {α : Type} (read : Read α) (bytes : Bytes) : Except WireError α :=
  match read (Reader.ofBytes bytes) with
  | .ok value _ => .ok value
  | .error e _ => .error e

section
variable {α : Type} [Codec α]

/-- Takes a sealed value apart. The signature's length is checked before what is left over. -/
def Frame.read : Read (Frame α) := do
  Read.setMark
  let value ← Codec.decode
  let length := (← get).position
  let signature ← Read.ofExcept (Signature.ofTagged (← Read.tagged))
  Read.finish
  Read.toMark
  let signed ← Read.bytes length
  return ⟨value, signed, signature⟩

def Frame.ofBytes (bytes : Bytes) : Except WireError (Frame α) :=
  Frame.read.run bytes

/-- The value in a sealed value whose signature nobody looks at: only its tag is read. -/
def readUnverified (bytes : Bytes) : Except WireError α :=
  Read.run (do
    let value ← Codec.decode
    let _ ← Read.tagged
    Read.finish
    return value) bytes

variable [SignatureScheme]

/-- A value's wire form with a signature over it. -/
def sealValue (value : α) (key : PrivateKey) : Except WireError Bytes :=
  match Codec.encode value with
  | .ok content => .ok (content ++ signatureField (key.sign content))
  | .error e => .error (.signingFailed e.message)

/-- The verified value of a frame, if the key accepts its signature. -/
def Frame.verify (frame : Frame α) (key : PublicKey) : Except WireError (Verified α) :=
  if key.verify frame.signed frame.signature then .ok ⟨frame.value, frame.signed⟩
  else .error .invalidSignature

/-- Opens a sealed value with a key that is chosen for the value, which is not yet to be trusted. The
choice may have effects; it is made once, and only for a well-formed frame. -/
def openWith {m : Type → Type} [Monad m] (bytes : Bytes) (choose : α → m PublicKey) :
    m (Except WireError (Verified α)) :=
  match Frame.ofBytes bytes with
  | .ok frame => do return frame.verify (← choose frame.value)
  | .error e => pure (.error e)

/-- Opens a sealed value with the key that `choose` gives for it. -/
def openBy (bytes : Bytes) (choose : α → PublicKey) : Except WireError (Verified α) :=
  Id.run (openWith bytes fun value => pure (choose value))

def openSealed (bytes : Bytes) (key : PublicKey) : Except WireError (Verified α) :=
  openBy bytes fun _ => key

end
end CertifiedAccess.Wire
