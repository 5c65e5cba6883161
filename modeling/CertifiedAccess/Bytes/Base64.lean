import CertifiedAccess.Bytes

/-!
Base64: three octets are written as four digits of six bits. Reading is strict: padding is required,
the bits that padding leaves over are zero, and no other character is skipped.
-/
namespace CertifiedAccess.Base64

/-- The last two digits of an alphabet, and whether a short last group is padded. -/
structure Alphabet where
  digit62 : UInt8
  digit63 : UInt8
  padded : Bool

/-- Letters, digits, plus and slash, padded with equals signs. -/
def standard : Alphabet := ⟨43, 47, true⟩

/-- Letters, digits, minus and underscore, without padding: safe in addresses. -/
def urlSafe : Alphabet := ⟨45, 95, false⟩

/-- The equals sign, which fills the last group. -/
def pad : UInt8 := 61

/-- The digit for the six low bits of `n`. -/
def Alphabet.digit (a : Alphabet) (n : Nat) : UInt8 :=
  let v := n % 64
  if v < 26 then UInt8.ofNat (65 + v)
  else if v < 52 then UInt8.ofNat (71 + v)
  else if v < 62 then UInt8.ofNat (v - 4)
  else if v = 62 then a.digit62
  else a.digit63

def Alphabet.value? (a : Alphabet) (c : UInt8) : Option Nat :=
  if 65 ≤ c ∧ c ≤ 90 then some (c.toNat - 65)
  else if 97 ≤ c ∧ c ≤ 122 then some (c.toNat - 71)
  else if 48 ≤ c ∧ c ≤ 57 then some (c.toNat + 4)
  else if c = a.digit62 then some 62
  else if c = a.digit63 then some 63
  else none

/-- As many pad characters as the alphabet wants. -/
def Alphabet.padding (a : Alphabet) (count : Nat) : Bytes :=
  if a.padded then List.replicate count pad else []

/-- Writes the octets after what is in `done` (held last first). -/
def Alphabet.encodeAfter (a : Alphabet) (done : Bytes) : Bytes → Bytes
  | [] => done.reverse
  | [x] =>
    let n := x.toNat * 16
    done.reverse ++ [a.digit (n / 64), a.digit n] ++ a.padding 2
  | [x, y] =>
    let n := (x.toNat * 256 + y.toNat) * 4
    done.reverse ++ [a.digit (n / 4096), a.digit (n / 64), a.digit n] ++ a.padding 1
  | x :: y :: z :: rest =>
    let n := (x.toNat * 256 + y.toNat) * 256 + z.toNat
    a.encodeAfter
      (a.digit n :: a.digit (n / 64) :: a.digit (n / 4096) :: a.digit (n / 262144) :: done) rest

/-- The digits of a byte string, as ASCII. -/
def Alphabet.encode (a : Alphabet) (bytes : Bytes) : Bytes :=
  a.encodeAfter [] bytes

/-- The octets of a last group, which may be padded. -/
def lastGroup? (p q r s : UInt8) : Option Bytes := do
  let a ← standard.value? p
  let b ← standard.value? q
  if r = pad then
    if s = pad ∧ b % 16 = 0 then some [UInt8.ofNat (a * 4 + b / 16)] else none
  else
    let c ← standard.value? r
    if s = pad then
      if c % 4 = 0 then some [UInt8.ofNat (a * 4 + b / 16), UInt8.ofNat (b * 16 + c / 4)] else none
    else
      let d ← standard.value? s
      some [UInt8.ofNat (a * 4 + b / 16), UInt8.ofNat (b * 16 + c / 4), UInt8.ofNat (c * 64 + d)]

/-- The three octets of a group that is not the last: no padding. -/
def fullGroup? (p q r s : UInt8) : Option (UInt8 × UInt8 × UInt8) := do
  let a ← standard.value? p
  let b ← standard.value? q
  let c ← standard.value? r
  let d ← standard.value? s
  some (UInt8.ofNat (a * 4 + b / 16), UInt8.ofNat (b * 16 + c / 4), UInt8.ofNat (c * 64 + d))

/-- Reads groups of four digits after the octets in `done` (held last first). -/
def decodeAfter? (done : Bytes) : Bytes → Option Bytes
  | [] => some done.reverse
  | [p, q, r, s] => (lastGroup? p q r s).map (done.reverse ++ ·)
  | p :: q :: r :: s :: rest =>
    match fullGroup? p q r s with
    | some (x, y, z) => decodeAfter? (z :: y :: x :: done) rest
    | none => none
  | _ => none

/-- The octets written by a standard base64 text, given as ASCII. -/
def decode? (text : Bytes) : Option Bytes :=
  decodeAfter? [] text

end CertifiedAccess.Base64
