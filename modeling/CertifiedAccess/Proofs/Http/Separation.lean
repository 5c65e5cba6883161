import CertifiedAccess.Proofs.Http.HeaderEdits
import CertifiedAccess.Proofs.Http.Verification
import Mathlib.Data.List.Basic

/-!
Canonical forms separate requests exactly: two of them are the same octets if and only if method, path and
the joined values of every signed header are the same, where a header that is absent is like no other.
Nothing else that headers can differ in shows in them.
-/
namespace CertifiedAccess.Http

/-- Both lack the name, or both have it, and their values are the same once they are joined. -/
def Headers.AgreeOn (headers headers' : Headers) (name : HeaderName) : Prop :=
  headers.values name = [] ∧ headers'.values name = [] ∨
    headers.values name ≠ [] ∧ headers'.values name ≠ [] ∧
      joinedValues (headers.values name) = joinedValues (headers'.values name)

instance (headers headers' : Headers) (name : HeaderName) :
    Decidable (headers.AgreeOn headers' name) := inferInstanceAs (Decidable (_ ∨ _))

section
variable {method method' path path' : String} {headers headers' : Headers} {message message' : Bytes}

theorem headerPart?_eq_iff_agreeOn {header : SignedHeader} :
    headerPart? headers header = headerPart? headers' header ↔
      headers.AgreeOn headers' header.name := by
  constructor
  · intro same
    obtain ⟨presence, joined⟩ := values_of_headerPart?_eq same
    by_cases absent : headers.values header.name = []
    · exact .inl ⟨absent, presence.mp absent⟩
    · exact .inr ⟨absent, fun absent' => absent (presence.mpr absent'), joined⟩
  · rintro (⟨absent, absent'⟩ | ⟨present, present', joined⟩)
    · simp only [headerPart?, absent, absent']
    · simp only [headerPart?, List.isEmpty_iff, present, present', if_false, joined]

/-- What canonical forms tell apart. -/
theorem canonicalBytes_eq_iff (solid : ' ' ∉ method.toList) (solid' : ' ' ∉ method'.toList)
    (wrote : canonicalBytes method path headers = .ok message)
    (wrote' : canonicalBytes method' path' headers' = .ok message') :
    message = message' ↔ method = method' ∧ path = path' ∧
      ∀ header ∈ signedHeaders, headers.AgreeOn headers' header.name := by
  constructor
  · rintro rfl
    obtain ⟨methods, paths, parts⟩ := parts_of_canonicalBytes_eq solid solid' wrote wrote'
    exact ⟨methods, paths, fun header known => headerPart?_eq_iff_agreeOn.mp (parts header known)⟩
  · rintro ⟨rfl, rfl, agree⟩
    have each : signedHeaders.filterMap (headerPart? headers) =
        signedHeaders.filterMap (headerPart? headers') :=
      List.filterMap_congr fun header known => headerPart?_eq_iff_agreeOn.mpr (agree header known)
    obtain ⟨-, -, form⟩ := canonicalBytes_eq_ok_iff.mp wrote
    obtain ⟨-, -, form'⟩ := canonicalBytes_eq_ok_iff.mp wrote'
    rw [form, form', canonicalParts, canonicalParts, each]

theorem label_length_lt : ∀ header ∈ signedHeaders,
    (Text.utf8 header.label ++ [58]).length ≤ Wire.maxFieldLength := by
  decide +kernel

/-- A header can always be added with nothing in it. -/
theorem exists_canonicalBytes_append_empty {header : SignedHeader}
    (absent : headers.values header.name = [])
    (wrote : canonicalBytes method path headers = .ok message) :
    ∃ other, canonicalBytes method path (headers.append header.name []) = .ok other := by
  obtain ⟨visible, fits, -⟩ := canonicalBytes_eq_ok_iff.mp wrote
  have empty : (headers.append header.name []).values header.name = [[]] := by
    rw [Headers.values_append_self, absent, List.nil_append]
  refine ⟨_, canonicalBytes_eq_ok_iff.mpr ⟨?_, ?_, rfl⟩⟩
  · intro other known'
    by_cases same : header.name = other.name
    · rw [← same, empty]
      rfl
    · rw [Headers.values_append_of_ne _ _ same]
      exact visible other known'
  · rw [canonicalParts, List.forall_mem_cons] at fits ⊢
    refine ⟨fits.1, ?_⟩
    intro part mem
    obtain ⟨other, known', found⟩ := List.mem_filterMap.mp mem
    by_cases same : header.name = other.name
    · rw [headerPart?, ← same, empty] at found
      cases found
      exact label_length_lt other known'
    · rw [headerPart?, Headers.values_append_of_ne _ _ same] at found
      exact fits.2 part (List.mem_filterMap.mpr ⟨other, known', found⟩)

theorem ofText?_label : ∀ header ∈ signedHeaders, HeaderName.ofText? header.label = some header.name := by
  decide +kernel

/-- Two canonical forms are equal exactly for one method, one path and signed headers that agree. Other
headers, the order in which names came and the case of their letters leave no trace, but an empty header is
told from none. -/
theorem canonicalBytes_separates (solid : ' ' ∉ method.toList) (solid' : ' ' ∉ method'.toList)
    (wrote : canonicalBytes method path headers = .ok message)
    (wrote' : canonicalBytes method' path' headers' = .ok message') :
    (message = message' ↔ method = method' ∧ path = path' ∧
      ∀ header ∈ signedHeaders, headers.AgreeOn headers' header.name) ∧
    (∀ edits : List HeaderEdit, (∀ edit ∈ edits, ∀ header ∈ signedHeaders, edit.name ≠ header.name) →
      canonicalBytes method path (headers.edit edits) = .ok message) ∧
    (∀ other : Headers, (∀ name, other.values name = headers.values name) →
      canonicalBytes method path other = .ok message) ∧
    (∀ header ∈ signedHeaders, HeaderName.ofText? header.label = some header.name) ∧
    (∀ a b : String, SameLetters a b → HeaderName.ofText? a = HeaderName.ofText? b) ∧
    ∀ header ∈ signedHeaders, headers.values header.name = [] →
      ∃ other, canonicalBytes method path (headers.append header.name []) = .ok other ∧
        other ≠ message := by
  refine ⟨canonicalBytes_eq_iff solid solid' wrote wrote', ?_, ?_, ofText?_label,
    fun _ _ same => HeaderName.ofText?_congr same, ?_⟩
  · intro edits unsigned
    rw [← wrote]
    apply canonicalBytes_congr
    intro header known
    exact Headers.values_edit_of_untouched (fun edit mem => unsigned edit mem header known) headers
  · intro other same
    rw [← wrote]
    exact canonicalBytes_congr fun header _ => same header.name
  · intro header known absent
    obtain ⟨other, wrote_empty⟩ := exists_canonicalBytes_append_empty absent wrote
    refine ⟨other, wrote_empty, ?_⟩
    intro same
    obtain ⟨-, -, agree⟩ := (canonicalBytes_eq_iff solid solid wrote_empty wrote).mp same
    rcases agree header known with ⟨gone, -⟩ | ⟨-, present, -⟩
    · simp [Headers.values_append_self] at gone
    · exact present absent

end

/-! Two ranges in one value, and in two. -/
namespace JoinedRange

def joined : Headers := ⟨[(rangeHeader.name, Text.utf8 "bytes=0-1,bytes=4-5")]⟩

def separate : Headers :=
  ⟨[(rangeHeader.name, Text.utf8 "bytes=0-1"), (⟨"accept"⟩, Text.utf8 "text/html"),
    (rangeHeader.name, Text.utf8 "bytes=4-5")]⟩

def message (headers : Headers) : Bytes := (canonicalParts "GET" "/" headers).flatMap framed

theorem message_joined :
    message joined = message separate ∧
      ∃ other, canonicalBytes "GET" "/" (joined.append dateHeader.name []) = .ok other ∧
        other ≠ message joined := by
  have solid : ' ' ∉ "GET".toList := by decide
  have wrote : canonicalBytes "GET" "/" joined = .ok (message joined) := by decide +kernel
  have wrote' : canonicalBytes "GET" "/" separate = .ok (message separate) := by decide +kernel
  have agree : ∀ header ∈ signedHeaders, joined.AgreeOn separate header.name := by decide +kernel
  obtain ⟨same, -, -, -, -, empty⟩ := canonicalBytes_separates solid solid wrote wrote'
  exact ⟨same.mpr ⟨rfl, rfl, agree⟩, empty dateHeader (by decide) (by decide +kernel)⟩

end JoinedRange
end CertifiedAccess.Http
