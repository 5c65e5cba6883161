import CertifiedAccess.Wire.Reader
import CertifiedAccess.Wire.Tagged

/-!
Types whose values have one form on the wire. The form says where it ends, so that a signature can
follow it.
-/
namespace CertifiedAccess.Wire

/-- A wire form: how a value is written, and how it is read from the octets that writing gave. -/
class Codec (α : Type) where
  encode : α → Except WireError Bytes
  decode : Read α

/-- A field of these octets: their number in four octets, then the octets. -/
def field (bytes : Bytes) : Except WireError Bytes :=
  if maxFieldLength < bytes.length then .error (.tooLarge bytes.length)
  else .ok (Bytes.bigEndian 4 bytes.length ++ bytes)

/-- The octets after a field has been put behind them. -/
def appendField (sink bytes : Bytes) : Except WireError Bytes := do
  return sink ++ (← field bytes)

def Read.tagged : Read Tagged := do
  Read.ofExcept (Tagged.decode (← Read.field))

/-- Octets that mean nothing here and are passed on as they are. -/
structure Blob where
  bytes : Bytes
  deriving DecidableEq

instance : Codec Blob where
  encode blob := field blob.bytes
  decode := Blob.mk <$> Read.field

instance : Codec String where
  encode text := field (Text.utf8 text)
  decode := Read.text

/-- Nothing at all takes no octets. -/
instance : Codec Unit where
  encode _ := .ok []
  decode := pure ()

/-- Reads one value at the start of `bytes`; the reader tells how far it went. -/
def decodeStart (α : Type) [Codec α] (bytes : Bytes) : Except WireError α × Reader :=
  match (Codec.decode : Read α) (Reader.ofBytes bytes) with
  | .ok value r => (.ok value, r)
  | .error e r => (.error e, r)

end CertifiedAccess.Wire
