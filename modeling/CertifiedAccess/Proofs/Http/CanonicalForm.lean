import CertifiedAccess.Http.Signed
import CertifiedAccess.Proofs.Octets
import CertifiedAccess.Proofs.Outcomes
import CertifiedAccess.Proofs.Text
import CertifiedAccess.Proofs.Wire.Primitive

/-!
The canonical form of a request tells apart all that it covers. It is a list of parts, each behind its
length, so the parts can be told from their octets; the first part is split at its only first space, and
every other part shows by its label which header it speaks of.
-/
namespace CertifiedAccess.Http

/-- A part of a canonical form with its length in front. -/
def framed (part : Bytes) : Bytes :=
  Bytes.bigEndian 4 part.length ++ part

theorem framed_append_inj {a b rest rest' : Bytes} (ha : a.length ≤ Wire.maxFieldLength)
    (hb : b.length ≤ Wire.maxFieldLength) (same : framed a ++ rest = framed b ++ rest') :
    a = b ∧ rest = rest' := by
  have limit : Wire.maxFieldLength < 256 ^ 4 := by decide
  unfold framed at same
  rw [List.append_assoc, List.append_assoc] at same
  obtain ⟨prefixes, bodies⟩ := List.append_inj same (by simp)
  have lengths := Bytes.bigEndian_inj_of_lt (Nat.lt_of_le_of_lt ha limit)
    (Nat.lt_of_le_of_lt hb limit) prefixes
  exact List.append_inj bodies lengths

/-- A list of parts is known from its octets: each part starts with its length. -/
theorem flatMap_framed_inj {parts parts' : List Bytes}
    (fits : ∀ part ∈ parts, part.length ≤ Wire.maxFieldLength)
    (fits' : ∀ part ∈ parts', part.length ≤ Wire.maxFieldLength)
    (same : parts.flatMap framed = parts'.flatMap framed) : parts = parts' := by
  induction parts generalizing parts' with
  | nil =>
    cases parts' with
    | nil => rfl
    | cons part' rest' => simp [framed, Bytes.bigEndian] at same
  | cons part rest ih =>
    cases parts' with
    | nil => simp [framed, Bytes.bigEndian] at same
    | cons part' rest' =>
      rw [List.forall_mem_cons] at fits fits'
      rw [List.flatMap_cons, List.flatMap_cons] at same
      obtain ⟨rfl, tails⟩ := framed_append_inj fits.1 fits'.1 same
      rw [ih fits.2 fits'.2 tails]

/-- The part of a signed header: its label, a colon and its values; none if the header is absent. -/
def headerPart? (headers : Headers) (header : SignedHeader) : Option Bytes :=
  if (headers.values header.name).isEmpty then none
  else some (Text.utf8 header.label ++ 58 :: joinedValues (headers.values header.name))

/-- The parts of a canonical form in their order. -/
def canonicalParts (method path : String) (headers : Headers) : List Bytes :=
  Text.utf8 (method ++ " " ++ path) :: signedHeaders.filterMap (headerPart? headers)

theorem canonicalField_eq_ok_iff {part octets : Bytes} :
    canonicalField part = .ok octets ↔
      part.length ≤ Wire.maxFieldLength ∧ octets = framed part := by
  rw [canonicalField, mapError_eq_ok_iff, Wire.field_eq_ok_iff]
  rfl

theorem canonicalHeader_eq_ok_iff {headers : Headers} {header : SignedHeader} {octets : Bytes} :
    canonicalHeader headers header = .ok octets ↔
      (headers.values header.name).all HeaderValue.isVisible = true ∧
        (∀ part ∈ headerPart? headers header, part.length ≤ Wire.maxFieldLength) ∧
        octets = (headerPart? headers header).toList.flatMap framed := by
  unfold canonicalHeader headerPart?
  by_cases absent : (headers.values header.name).isEmpty = true
  · have none_left := List.isEmpty_iff.mp absent
    simp [none_left, eq_comm]
  · by_cases visible : (headers.values header.name).all HeaderValue.isVisible = true
    · simp only [absent, visible, if_true, Bool.false_eq_true, if_false, canonicalField_eq_ok_iff]
      simp
    · simp only [absent, visible, Bool.false_eq_true, if_false, false_and]
      simp

theorem mapM_canonicalHeader_eq_ok_iff {headers : Headers} {known : List SignedHeader}
    {octets : Bytes} :
    (∃ fields, known.mapM (canonicalHeader headers) = .ok fields ∧ octets = fields.flatten) ↔
      (∀ header ∈ known, (headers.values header.name).all HeaderValue.isVisible = true) ∧
        (∀ part ∈ known.filterMap (headerPart? headers), part.length ≤ Wire.maxFieldLength) ∧
        octets = (known.filterMap (headerPart? headers)).flatMap framed := by
  induction known generalizing octets with
  | nil => simp
  | cons header rest ih =>
    have split : (header :: rest).filterMap (headerPart? headers) =
        (headerPart? headers header).toList ++ rest.filterMap (headerPart? headers) := by
      cases found : headerPart? headers header with
      | none => simp [found]
      | some part => simp [found]
    rw [split, List.flatMap_append]
    simp only [List.mapM_cons, bind_eq_ok_iff, pure_eq_ok_iff, canonicalHeader_eq_ok_iff,
      List.forall_mem_cons, List.forall_mem_append, Option.mem_toList]
    constructor
    · rintro ⟨_, ⟨_, ⟨visible, fits, rfl⟩, fields, taken, rfl⟩, rfl⟩
      obtain ⟨visible', fits', same⟩ := ih.mp ⟨fields, taken, rfl⟩
      exact ⟨⟨visible, visible'⟩, ⟨fits, fits'⟩, by rw [List.flatten_cons, same]⟩
    · rintro ⟨⟨visible, visible'⟩, ⟨fits, fits'⟩, rfl⟩
      obtain ⟨fields, taken, same⟩ := ih.mpr ⟨visible', fits', rfl⟩
      exact ⟨_, ⟨_, ⟨visible, fits, rfl⟩, fields, taken, rfl⟩, by rw [List.flatten_cons, same]⟩

theorem canonicalBytes_eq_ok_iff {method path : String} {headers : Headers} {message : Bytes} :
    canonicalBytes method path headers = .ok message ↔
      (∀ header ∈ signedHeaders,
          (headers.values header.name).all HeaderValue.isVisible = true) ∧
        (∀ part ∈ canonicalParts method path headers, part.length ≤ Wire.maxFieldLength) ∧
        message = (canonicalParts method path headers).flatMap framed := by
  simp only [canonicalBytes, canonicalParts, bind_eq_ok_iff, pure_eq_ok_iff,
    canonicalField_eq_ok_iff, List.forall_mem_cons, List.flatMap_cons]
  constructor
  · rintro ⟨_, ⟨fits, rfl⟩, fields, taken, rfl⟩
    obtain ⟨visible, fits', same⟩ := mapM_canonicalHeader_eq_ok_iff.mp ⟨fields, taken, rfl⟩
    exact ⟨visible, ⟨fits, fits'⟩, by rw [same]⟩
  · rintro ⟨visible, ⟨fits, fits'⟩, rfl⟩
    obtain ⟨fields, taken, same⟩ := mapM_canonicalHeader_eq_ok_iff.mpr ⟨visible, fits', rfl⟩
    exact ⟨_, ⟨fits, rfl⟩, fields, taken, by rw [same]⟩

theorem space_notMem_token {name : String} (token : isToken name = true) : ' ' ∉ name.toList := by
  intro mem
  rw [isToken, Bool.and_eq_true, List.all_eq_true] at token
  have blank : isTokenChar ' ' = true := token.2 ' ' mem
  exact absurd blank (by decide)

/-- What has no space in it ends at the first space. -/
theorem line_inj {method method' path path' : String} (solid : ' ' ∉ method.toList)
    (solid' : ' ' ∉ method'.toList) (same : method ++ " " ++ path = method' ++ " " ++ path') :
    method = method' ∧ path = path' := by
  -- both lines have the same characters before their first space
  have before (name rest : String) (h : ' ' ∉ name.toList) :
      (name ++ " " ++ rest).toList.takeWhile (· != ' ') = name.toList := by
    have other : ∀ c ∈ name.toList, (c != ' ') = true := by
      intro c mem
      rw [bne_iff_ne]
      rintro rfl
      exact h mem
    rw [String.toList_append, String.toList_append, List.append_assoc,
      List.takeWhile_append_of_pos other]
    simp
  have first := before method path solid
  rw [same, before method' path' solid'] at first
  have methods : method = method' := String.toList_inj.mp first.symm
  subst methods
  have whole := congrArg String.toList same
  simp only [String.toList_append, List.append_cancel_left_eq] at whole
  exact ⟨rfl, String.toList_inj.mp whole⟩

theorem label_eq_takeWhile {header : SignedHeader} (known : header ∈ signedHeaders) (rest : Bytes) :
    (Text.utf8 header.label ++ 58 :: rest).takeWhile (· != 58) = Text.utf8 header.label := by
  have solid : ∀ header ∈ signedHeaders, ∀ b ∈ Text.utf8 header.label, (b != 58) = true := by
    decide +kernel
  rw [List.takeWhile_append_of_pos (solid header known)]
  simp

theorem label_inj {a b : SignedHeader} (ha : a ∈ signedHeaders) (hb : b ∈ signedHeaders)
    (same : Text.utf8 a.label = Text.utf8 b.label) : a = b := by
  have distinct : ∀ a ∈ signedHeaders, ∀ b ∈ signedHeaders, a.label = b.label → a = b := by
    decide +kernel
  exact distinct a ha b hb (Text.utf8_inj.mp same)

/-- Which header a part speaks of can be seen in the part. -/
theorem headerPart?_eq_some_iff {headers : Headers} {header : SignedHeader} {part : Bytes}
    (known : header ∈ signedHeaders) :
    headerPart? headers header = some part ↔
      part ∈ signedHeaders.filterMap (headerPart? headers) ∧
        part.takeWhile (· != 58) = Text.utf8 header.label := by
  have shown (other : SignedHeader) (member : other ∈ signedHeaders)
      (found : headerPart? headers other = some part) :
      part.takeWhile (· != 58) = Text.utf8 other.label := by
    unfold headerPart? at found
    split at found
    · contradiction
    · cases found
      exact label_eq_takeWhile member _
  rw [List.mem_filterMap]
  constructor
  · intro found
    exact ⟨⟨header, known, found⟩, shown header known found⟩
  · rintro ⟨⟨other, member, found⟩, label⟩
    rw [shown other member found] at label
    rwa [← label_inj member known label]

theorem headerPart?_congr {headers headers' : Headers} {header : SignedHeader}
    (same : signedHeaders.filterMap (headerPart? headers) =
      signedHeaders.filterMap (headerPart? headers'))
    (known : header ∈ signedHeaders) : headerPart? headers header = headerPart? headers' header := by
  apply Option.ext
  intro part
  rw [headerPart?_eq_some_iff known, headerPart?_eq_some_iff known, same]

/-- One canonical form is that of one method, one path and one part for each signed header. -/
theorem parts_of_canonicalBytes_eq {method method' path path' : String} {headers headers' : Headers}
    {message : Bytes} (solid : ' ' ∉ method.toList) (solid' : ' ' ∉ method'.toList)
    (wrote : canonicalBytes method path headers = .ok message)
    (wrote' : canonicalBytes method' path' headers' = .ok message) :
    method = method' ∧ path = path' ∧
      ∀ header ∈ signedHeaders, headerPart? headers header = headerPart? headers' header := by
  obtain ⟨-, fits, form⟩ := canonicalBytes_eq_ok_iff.mp wrote
  obtain ⟨-, fits', form'⟩ := canonicalBytes_eq_ok_iff.mp wrote'
  have parts := flatMap_framed_inj fits fits' (form.symm.trans form')
  obtain ⟨lines, others⟩ := List.cons.inj parts
  obtain ⟨methods, paths⟩ := line_inj solid solid' (Text.utf8_inj.mp lines)
  exact ⟨methods, paths, fun header known => headerPart?_congr others known⟩

/-- A header with the same part is there in both, or in neither, and has the same joined values. -/
theorem values_of_headerPart?_eq {headers headers' : Headers} {header : SignedHeader}
    (same : headerPart? headers header = headerPart? headers' header) :
    (headers.values header.name = [] ↔ headers'.values header.name = []) ∧
      joinedValues (headers.values header.name) = joinedValues (headers'.values header.name) := by
  unfold headerPart? at same
  by_cases absent : headers.values header.name = []
  · by_cases absent' : headers'.values header.name = []
    · simp [absent, absent']
    · simp [absent, absent'] at same
  · by_cases absent' : headers'.values header.name = []
    · simp [absent, absent'] at same
    · simpa [absent, absent'] using same

/-- What two requests have in common when a signature of one fits the other. -/
structure SameSigned (a b : Request) : Prop where
  method : a.method = b.method
  path : a.target.signedPath = b.target.signedPath
  presence : ∀ header ∈ signedHeaders,
    (a.headers.values header.name = [] ↔ b.headers.values header.name = [])
  joined : ∀ header ∈ signedHeaders,
    joinedValues (a.headers.values header.name) = joinedValues (b.headers.values header.name)

/-- The octets that a signature of this request covers. -/
def Request.covered (request : Request) : Except RequestError Bytes :=
  canonicalBytes request.method.name request.target.signedPath request.headers

theorem sameSigned_of_covered_eq {a b : Request} {message : Bytes}
    (wrote : a.covered = .ok message) (wrote' : b.covered = .ok message) :
    SameSigned a b := by
  obtain ⟨methods, paths, parts⟩ := parts_of_canonicalBytes_eq
    (space_notMem_token a.method.isToken_name) (space_notMem_token b.method.isToken_name) wrote wrote'
  have each (header : SignedHeader) (known : header ∈ signedHeaders) :=
    values_of_headerPart?_eq (parts header known)
  obtain ⟨⟨name, token⟩, _, _, _⟩ := a
  cases methods
  exact ⟨rfl, paths, fun header known => (each header known).1,
    fun header known => (each header known).2⟩

end CertifiedAccess.Http
