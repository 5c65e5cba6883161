import CertifiedAccess.Http.Headers
import CertifiedAccess.Http.Target

/-!
Requests: a method, a target, header fields and a body.
-/
namespace CertifiedAccess.Http

/-- A method: a token, in the case in which it was written. -/
structure Method where
  name : String
  isToken_name : isToken name = true

def Method.ofText? (text : String) : Option Method :=
  if h : isToken text = true then some ⟨text, h⟩ else none

structure Request where
  method : Method
  target : Target
  headers : Headers
  body : Bytes

end CertifiedAccess.Http
