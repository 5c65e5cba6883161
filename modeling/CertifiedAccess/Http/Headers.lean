import CertifiedAccess.Bytes

/-!
Header fields: names without regard to case, each with its values in the order in which they were added.
-/
namespace CertifiedAccess.Http

/-- The characters of a token: letters, digits and some marks, all ASCII. -/
def isTokenChar (c : Char) : Bool :=
  c.isAlphanum || "!#$%&'*+-.^_`|~".toList.contains c

/-- Whether a text is a token: not empty, and of token characters only. -/
def isToken (text : String) : Bool :=
  !text.isEmpty && text.toList.all isTokenChar

/-- The longest name of a header, in octets. -/
def maxNameLength : Nat := 65535

/-- A header's name, in lower case. -/
structure HeaderName where
  text : String
  deriving DecidableEq

/-- The name that a text spells, in letters of either case. -/
def HeaderName.ofText? (text : String) : Option HeaderName :=
  if text.utf8ByteSize ≤ maxNameLength && isToken text then
    some ⟨String.ofList (text.toList.map Char.toLower)⟩
  else none

abbrev HeaderValue := Bytes

namespace HeaderValue

/-- A value holds no control characters other than the tab. -/
def ofBytes? (bytes : Bytes) : Option HeaderValue :=
  if bytes.all fun b => b == 9 || (32 ≤ b && b != 127) then some bytes else none

/-- Whether a value is visible ASCII, blanks and tabs, and so can be shown as text. -/
def isVisible (value : HeaderValue) : Bool :=
  value.all fun b => b == 9 || (32 ≤ b && b < 127)

end HeaderValue

/-- Header fields in the order in which they were added. -/
structure Headers where
  fields : List (HeaderName × HeaderValue)
  deriving DecidableEq

namespace Headers

def none : Headers := ⟨[]⟩

def values (headers : Headers) (name : HeaderName) : List HeaderValue :=
  (headers.fields.filter fun field => field.1 = name).map (·.2)

def first? (headers : Headers) (name : HeaderName) : Option HeaderValue :=
  (headers.values name).head?

def append (headers : Headers) (name : HeaderName) (value : HeaderValue) : Headers :=
  ⟨headers.fields ++ [(name, value)]⟩

def remove (headers : Headers) (name : HeaderName) : Headers :=
  ⟨headers.fields.filter fun field => field.1 ≠ name⟩

/-- Puts one value in the place of all values of a name. -/
def set (headers : Headers) (name : HeaderName) (value : HeaderValue) : Headers :=
  (headers.remove name).append name value

def size (headers : Headers) : Nat := headers.fields.length

theorem values_append_self (headers : Headers) (name : HeaderName) (value : HeaderValue) :
    (headers.append name value).values name = headers.values name ++ [value] := by
  simp [append, values]

theorem values_remove_self (headers : Headers) (name : HeaderName) :
    (headers.remove name).values name = [] := by
  simp [remove, values, List.filter_filter]

theorem values_set_self (headers : Headers) (name : HeaderName) (value : HeaderValue) :
    (headers.set name value).values name = [value] := by
  rw [set, values_append_self, values_remove_self, List.nil_append]

section
variable {name other : HeaderName}

theorem values_append_of_ne (headers : Headers) (value : HeaderValue) (different : name ≠ other) :
    (headers.append name value).values other = headers.values other := by
  simp [append, values, different]

theorem values_remove_of_ne (headers : Headers) (different : name ≠ other) :
    (headers.remove name).values other = headers.values other := by
  have kept : ∀ field : HeaderName × HeaderValue,
      (decide (field.1 = other) && decide (field.1 ≠ name)) = decide (field.1 = other) := by
    intro field
    by_cases same : field.1 = other
    · simp [same, different.symm]
    · simp [same]
  simp only [remove, values, List.filter_filter, kept]

theorem values_set_of_ne (headers : Headers) (value : HeaderValue) (different : name ≠ other) :
    (headers.set name value).values other = headers.values other := by
  rw [set, values_append_of_ne _ _ different, values_remove_of_ne _ different]

end
end Headers
end CertifiedAccess.Http
