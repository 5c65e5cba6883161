import CertifiedAccess.Key.Basic

/-!
What can be wrong with octets on the wire.
-/
namespace CertifiedAccess

inductive WireError where
  | unsupportedVersion (expected actual : UInt8)
  | unknownMechanism (tag : UInt8)
  | invalidSignature
  | signingFailed (reason : String)
  | truncated (needed remaining : Nat)
  | trailingBytes (count : Nat)
  | tooLarge (length : Nat)
  | invalidKey (error : KeyError)
  | invalidTimestamp (milliseconds : Int)
  | invalidUtf8
  | invalidBase64
  deriving DecidableEq

def WireError.message : WireError → String
  | .unsupportedVersion expected actual =>
    "unsupported version: expected " ++ expected.toNat.repr ++ ", got " ++ actual.toNat.repr
  | .unknownMechanism tag => "unknown mechanism tag: 0x" ++ Bytes.toHex [tag]
  | .invalidSignature => "invalid signature"
  | .signingFailed reason => "signing failed: " ++ reason
  | .truncated needed remaining =>
    "truncated input: needed " ++ needed.repr ++ " bytes, " ++ remaining.repr ++ " remaining"
  | .trailingBytes count => count.repr ++ " trailing bytes after signature"
  | .tooLarge length => "field too large: " ++ length.repr ++ " bytes"
  | .invalidKey error => "invalid key material: " ++ error.message
  | .invalidTimestamp ms => "timestamp out of range: " ++ toString ms ++ " ms"
  | .invalidUtf8 => "invalid UTF-8 in string field"
  | .invalidBase64 => "invalid base64 encoding"

end CertifiedAccess
