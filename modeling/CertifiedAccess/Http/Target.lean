import CertifiedAccess.Bytes

/-!
Request targets: a path on the server that is asked, an absolute address, or a bare host. What a target
says of path and query is kept as it was written; a fragment is dropped.
-/
namespace CertifiedAccess.Http

inductive Target where
  /-- A path, perhaps with a query, or the asterisk. -/
  | origin (pathAndQuery : String)
  /-- An address; path and query may be empty. -/
  | absolute (scheme authority pathAndQuery : String)
  /-- A host with nothing else. -/
  | host (authority : String)
  deriving DecidableEq

namespace Target

/-- The longest target, in octets. -/
def maxLength : Nat := 65534

/-- Characters of a host part: letters, digits, and the marks that addresses are built with. -/
def isHostChar (c : Char) : Bool :=
  c.isAlphanum || "!$&'()*+,-.;=_~".toList.contains c

def isSchemeChar (c : Char) : Bool :=
  c.isAlphanum || "+-.~".toList.contains c

/-- Characters of a path. Those that should be escaped but often are not, such as quotes, braces and
everything beyond ASCII, may stand as they are. -/
def isPathChar (c : Char) : Bool :=
  let n := c.toNat
  n == 0x21 || n == 0x22 || (0x24 ≤ n && n ≤ 0x3B) || n == 0x3D || (0x40 ≤ n && n ≤ 0x5F) ||
    (0x61 ≤ n && n ≤ 0x7E) || 0x80 ≤ n

def isQueryChar (c : Char) : Bool :=
  let n := c.toNat
  n == 0x21 || (0x24 ≤ n && n ≤ 0x3B) || n == 0x3D || (0x3F ≤ n && n ≤ 0x7E) || 0x80 ≤ n

/-- Path and query without the fragment, if every character of them may stand there. -/
def pathAndQuery? (chars : List Char) : Option String :=
  let kept := chars.takeWhile (· != '#')
  let path := kept.takeWhile (· != '?')
  let query := (kept.dropWhile (· != '?')).drop 1
  if path.all isPathChar && query.all isQueryChar then some (String.ofList kept) else none

structure HostScan where
  colons : Nat
  opened : Bool
  closed : Bool
  percent : Bool

/-- One character of a host part. A user's name before `@` and an address in brackets may have colons and
percent signs of their own, so both are forgotten there. -/
def HostScan.next (s : HostScan) (c : Char) : Option HostScan :=
  if c = ':' then if s.colons < 8 then some { s with colons := s.colons + 1 } else none
  else if c = '[' then if s.percent || s.opened then none else some { s with opened := true }
  else if c = ']' then
    if s.opened && !s.closed then some { s with closed := true, colons := 0, percent := false }
    else none
  else if c = '@' then some { s with colons := 0, percent := false }
  else if c = '%' then some { s with percent := true }
  else if isHostChar c then some s
  else none

/-- Whether a text can be a host part: one colon at most outside brackets and before no `@`, brackets in a
pair, a host after a user. -/
def isHost (chars : List Char) : Bool :=
  match chars.foldlM HostScan.next ⟨0, false, false, false⟩ with
  | some s =>
    s.opened == s.closed && s.colons ≤ 1 && !s.percent && chars.getLast? != some '@'
  | none => false

def endsHost (c : Char) : Bool := c == '/' || c == '?' || c == '#'

/-- A scheme and what follows the two slashes behind it. -/
def splitScheme? (chars : List Char) : Option (String × List Char) :=
  let scheme := chars.takeWhile isSchemeChar
  match chars.drop scheme.length with
  | ':' :: '/' :: '/' :: rest => if chars.length > 3 then some (String.ofList scheme, rest) else none
  | _ => none

def maxSchemeLength : Nat := 64

def ofText? (text : String) : Option Target :=
  let chars := text.toList
  if text.isEmpty || maxLength < text.utf8ByteSize then none
  else if chars = ['*'] then some (.origin "*")
  else if chars.head? = some '/' then (pathAndQuery? chars).map .origin
  else
    match splitScheme? chars with
    | none => if isHost chars then some (.host text) else none
    | some (scheme, rest) =>
      let host := rest.takeWhile fun c => !endsHost c
      if maxSchemeLength < scheme.length || host.isEmpty || !isHost host then none
      else
        (pathAndQuery? (rest.drop host.length)).map fun path =>
          .absolute scheme (String.ofList host) path

/-- Path and query as a request signs them: a slash where nothing is written. -/
def signedPath : Target → String
  | .origin text => text
  | .absolute _ _ text => if text.isEmpty then "/" else text
  | .host _ => "/"

/-- The path without the query; a bare host has none. -/
def path : Target → String
  | .origin text => withoutQuery text
  | .absolute _ _ text => withoutQuery text
  | .host _ => ""
where
  withoutQuery (text : String) : String :=
    let kept := text.toList.takeWhile (· != '?')
    if kept.isEmpty then "/" else String.ofList kept

end Target
end CertifiedAccess.Http
