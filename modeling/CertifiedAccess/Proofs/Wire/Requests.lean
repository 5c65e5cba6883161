import CertifiedAccess.Proofs.Wire.Primitive

/-!
What a reader answers to a single request: which octets an answer stands for, and for each refusal when it is
given and how many octets are gone then. A read that fails stops behind the last part of it that is there in full.
-/
namespace CertifiedAccess.Wire

namespace Reader

/-- The next four octets announce a field of this length. -/
def Announces (r : Reader) (length : UInt32) : Prop :=
  Bytes.bigEndian 4 length.toNat <+: r.input.drop r.position

theorem Announces.four_le {r : Reader} {length : UInt32} (announced : r.Announces length) :
    4 ≤ r.remaining := by
  have size := announced.length_le
  rwa [Bytes.length_bigEndian, List.length_drop] at size

/-- How a field is refused, and how many octets are gone then. -/
inductive RefusesField (r : Reader) : WireError → Nat → Prop where
  | unannounced (missing : r.remaining < 4) : RefusesField r (.truncated 4 r.remaining) 0
  | tooLarge {length : UInt32} (announced : r.Announces length)
    (large : maxFieldLength < length.toNat) : RefusesField r (.tooLarge length.toNat) 4
  | cut {length : UInt32} (announced : r.Announces length) (small : length.toNat ≤ maxFieldLength)
    (missing : r.remaining - 4 < length.toNat) :
    RefusesField r (.truncated length.toNat (r.remaining - 4)) 4

theorem RefusesField.gone_le {r : Reader} {e : WireError} {gone : Nat}
    (refused : r.RefusesField e gone) : gone ≤ r.remaining := by
  cases refused with
  | unannounced missing => exact Nat.zero_le _
  | tooLarge announced large => exact announced.four_le
  | cut announced small missing => exact announced.four_le

end Reader

namespace Read
variable {r stop : Reader} {e : WireError}

theorem number_eq_error_iff {width : Nat} :
    number width r = .error e stop ↔
      r.remaining < width ∧ e = .truncated width r.remaining ∧ stop = r :=
  map_eq_error_iff.trans bytes_eq_error_iff

theorem u32_eq_ok_iff {length : UInt32} :
    u32 r = .ok length stop ↔
      r.Announces length ∧ stop = { r with position := r.position + 4 } := by
  rw [Accepts.u32 r length stop]
  constructor
  · rintro ⟨_, rfl, stands, rfl⟩
    exact ⟨stands, by rw [Bytes.length_bigEndian]⟩
  · rintro ⟨stands, rfl⟩
    exact ⟨_, rfl, stands, by rw [Bytes.length_bigEndian]⟩

theorem u32_eq_error_iff :
    u32 r = .error e stop ↔ r.remaining < 4 ∧ e = .truncated 4 r.remaining ∧ stop = r :=
  map_eq_error_iff.trans number_eq_error_iff

/-- The read of a field behind its length. -/
theorem field_body_eq_error_iff {length : UInt32} :
    (do if maxFieldLength < length.toNat then throw (.tooLarge length.toNat)
        bytes length.toNat : Read Bytes) r = .error e stop ↔
      (maxFieldLength < length.toNat ∧ e = .tooLarge length.toNat ∨
        length.toNat ≤ maxFieldLength ∧ r.remaining < length.toNat ∧
          e = .truncated length.toNat r.remaining) ∧ stop = r := by
  by_cases large : maxFieldLength < length.toNat
  · rw [if_pos large]
    change EStateM.Result.error _ r = _ ↔ _
    simp [large, Nat.not_le.mpr large, eq_comm]
  · rw [if_neg large, bytes_eq_error_iff]
    simp [large, Nat.not_lt.mp large, and_assoc]

theorem field_eq_error_iff :
    field r = .error e stop ↔
      ∃ gone, r.RefusesField e gone ∧ stop = { r with position := r.position + gone } := by
  unfold field
  simp only [bind_eq_error_iff, u32_eq_error_iff, u32_eq_ok_iff, field_body_eq_error_iff]
  have behind : Reader.remaining { r with position := r.position + 4 } = r.remaining - 4 := by
    simp only [Reader.remaining]
    omega
  constructor
  · rintro (⟨missing, rfl, rfl⟩ | ⟨length, _, ⟨announced, rfl⟩, ⟨large, rfl⟩ |
      ⟨small, missing, rfl⟩, rfl⟩)
    · exact ⟨0, .unannounced missing, rfl⟩
    · exact ⟨4, .tooLarge announced large, rfl⟩
    · rw [behind] at *
      exact ⟨4, .cut announced small missing, rfl⟩
  · rintro ⟨gone, missing | ⟨announced, large⟩ | ⟨announced, small, missing⟩, rfl⟩
    · exact .inl ⟨missing, rfl, rfl⟩
    · exact .inr ⟨_, _, ⟨announced, rfl⟩, .inl ⟨large, rfl⟩, rfl⟩
    · refine .inr ⟨_, _, ⟨announced, rfl⟩, .inr ⟨small, ?_, ?_⟩, rfl⟩
      · rwa [behind]
      · rw [behind]

theorem field_eq_ok_iff_advances {octets : Bytes} :
    field r = .ok octets stop ↔ octets.length ≤ maxFieldLength ∧
      r.Advances (Bytes.bigEndian 4 octets.length ++ octets) stop := by
  simp only [Accepts.field r octets stop, Wire.field_eq_ok_iff]
  constructor
  · rintro ⟨_, ⟨fits, rfl⟩, moved⟩
    exact ⟨fits, moved⟩
  · rintro ⟨fits, moved⟩
    exact ⟨_, ⟨fits, rfl⟩, moved⟩

theorem text_eq_error_iff :
    text r = .error e stop ↔
      field r = .error e stop ∨
        e = .invalidUtf8 ∧ ∃ octets, Text.ofUtf8? octets = none ∧ field r = .ok octets stop := by
  unfold text
  rw [bind_eq_error_iff]
  refine or_congr_right ?_
  constructor
  · rintro ⟨octets, next, taken, refused⟩
    cases read : Text.ofUtf8? octets with
    | none =>
      rw [read] at refused
      cases refused
      exact ⟨rfl, octets, read, taken⟩
    | some s =>
      rw [read] at refused
      cases refused
  · rintro ⟨rfl, octets, malformed, taken⟩
    refine ⟨octets, stop, taken, ?_⟩
    rw [malformed]
    rfl

end Read

namespace Request

/-- Whether a request reads octets; the others set the mark and go back to it. -/
def isRead : Request → Bool
  | .setMark | .toMark => false
  | _ => true

/-- The octets that an answer stands for: integers with the most significant octet first, fields behind their
length. -/
inductive Takes : Request → Answer → Bytes → Prop where
  | u8 (value : UInt8) : Takes .u8 (.u8 value) [value]
  | u32 (value : UInt32) : Takes .u32 (.u32 value) (Bytes.bigEndian 4 value.toNat)
  | i64 (value : Int64) : Takes .i64 (.i64 value) (Bytes.bigEndian 8 value.toUInt64.toNat)
  | u64 (value : UInt64) : Takes .u64 (.u64 value) (Bytes.bigEndian 8 value.toNat)
  | bytes (octets : Bytes) : Takes (.bytes octets.length) (.bytes octets) octets
  | field {octets : Bytes} (fits : octets.length ≤ maxFieldLength) :
    Takes .field (.bytes octets) (Bytes.bigEndian 4 octets.length ++ octets)
  | text {value : String} (fits : (Text.utf8 value).length ≤ maxFieldLength) :
    Takes .text (.text value) (Bytes.bigEndian 4 (Text.utf8 value).length ++ Text.utf8 value)

/-- How many octets a request asks for, if that does not depend on what they are. -/
def width? : Request → Option Nat
  | .u8 => some 1
  | .u32 => some 4
  | .i64 | .u64 => some 8
  | .bytes count => some count
  | .field | .text | .setMark | .toMark => none

/-- How a request is refused, and how many octets are gone then. -/
inductive Refused (r : Reader) : Request → WireError → Nat → Prop where
  | short {request : Request} {width : Nat} (fixed : request.width? = some width)
    (missing : r.remaining < width) : Refused r request (.truncated width r.remaining) 0
  | field {e : WireError} {gone : Nat} (refused : r.RefusesField e gone) : Refused r .field e gone
  | text {e : WireError} {gone : Nat} (refused : r.RefusesField e gone) : Refused r .text e gone
  | notUtf8 {octets : Bytes} (fits : octets.length ≤ maxFieldLength)
    (stands : Bytes.bigEndian 4 octets.length ++ octets <+: r.input.drop r.position)
    (malformed : ∀ value, Text.utf8 value ≠ octets) :
    Refused r .text .invalidUtf8 (4 + octets.length)

theorem accepts {request : Request} (reads : request.isRead = true) :
    request.read.Accepts request.Takes := by
  cases request with
  | u8 =>
    refine (Read.Accepts.u8.map Answer.u8).congr fun answer octets => ?_
    constructor
    · rintro ⟨value, rfl, rfl⟩
      exact .u8 value
    · rintro ⟨⟩
      exact ⟨_, rfl, rfl⟩
  | u32 =>
    refine (Read.Accepts.u32.map Answer.u32).congr fun answer octets => ?_
    constructor
    · rintro ⟨value, rfl, rfl⟩
      exact .u32 _
    · rintro ⟨⟩
      exact ⟨_, rfl, rfl⟩
  | i64 =>
    refine (Read.Accepts.i64.map Answer.i64).congr fun answer octets => ?_
    constructor
    · rintro ⟨value, rfl, rfl⟩
      exact .i64 _
    · rintro ⟨⟩
      exact ⟨_, rfl, rfl⟩
  | u64 =>
    refine (Read.Accepts.u64.map Answer.u64).congr fun answer octets => ?_
    constructor
    · rintro ⟨value, rfl, rfl⟩
      exact .u64 _
    · rintro ⟨⟩
      exact ⟨_, rfl, rfl⟩
  | bytes count =>
    refine ((Read.Accepts.bytes count).map Answer.bytes).congr fun answer octets => ?_
    constructor
    · rintro ⟨_, ⟨rfl, rfl⟩, rfl⟩
      exact .bytes _
    · rintro ⟨_⟩
      exact ⟨_, ⟨rfl, rfl⟩, rfl⟩
  | field =>
    refine (Read.Accepts.field.map Answer.bytes).congr fun answer octets => ?_
    constructor
    · rintro ⟨value, written, rfl⟩
      obtain ⟨fits, rfl⟩ := field_eq_ok_iff.mp written
      exact .field fits
    · intro takes
      cases takes with
      | field fits => exact ⟨_, field_eq_ok_iff.mpr ⟨fits, rfl⟩, rfl⟩
  | text =>
    refine (Read.Accepts.text.map Answer.text).congr fun answer octets => ?_
    constructor
    · rintro ⟨value, written, rfl⟩
      obtain ⟨fits, rfl⟩ := field_eq_ok_iff.mp written
      exact .text fits
    · intro takes
      cases takes with
      | text fits => exact ⟨_, field_eq_ok_iff.mpr ⟨fits, rfl⟩, rfl⟩
  | setMark => contradiction
  | toMark => contradiction

theorem Takes.isRead {request : Request} {answer : Answer} {octets : Bytes}
    (takes : request.Takes answer octets) : request.isRead = true := by
  cases takes <;> rfl

section
variable {r next : Reader} {request : Request} {e : WireError}

theorem Refused.gone_le {gone : Nat} (refused : request.Refused r e gone) : gone ≤ r.remaining := by
  cases refused with
  | short fixed missing => exact Nat.zero_le _
  | field refused => exact refused.gone_le
  | text refused => exact refused.gone_le
  | notUtf8 fits stands malformed =>
    have size := stands.length_le
    rwa [List.length_append, Bytes.length_bigEndian, List.length_drop] at size

theorem read_short_iff {width : Nat} (fixed : request.width? = some width) :
    request.read r = .error e next ↔
      r.remaining < width ∧ e = .truncated width r.remaining ∧ next = r := by
  cases request with
  | u8 | u64 =>
    cases fixed
    exact Read.map_eq_error_iff.trans (Read.map_eq_error_iff.trans Read.number_eq_error_iff)
  | u32 =>
    cases fixed
    exact Read.map_eq_error_iff.trans Read.u32_eq_error_iff
  | i64 =>
    cases fixed
    refine Read.map_eq_error_iff.trans (Read.map_eq_error_iff.trans ?_)
    exact Read.map_eq_error_iff.trans Read.number_eq_error_iff
  | bytes count =>
    cases fixed
    exact Read.map_eq_error_iff.trans Read.bytes_eq_error_iff
  | field | text | setMark | toMark => contradiction

theorem refused_short_iff {width : Nat} (fixed : request.width? = some width) :
    (∃ gone, request.Refused r e gone ∧ next = { r with position := r.position + gone }) ↔
      r.remaining < width ∧ e = .truncated width r.remaining ∧ next = r := by
  constructor
  · rintro ⟨gone, refused, rfl⟩
    cases refused with
    | short fixed' missing =>
      obtain rfl := Option.some.inj (fixed'.symm.trans fixed)
      exact ⟨missing, rfl, rfl⟩
    | field refused => contradiction
    | text refused => contradiction
    | notUtf8 fits stands malformed => contradiction
  · rintro ⟨missing, rfl, rfl⟩
    exact ⟨0, .short fixed missing, rfl⟩

theorem read_text_eq_error_iff :
    Read.text r = .error e next ↔
      ∃ gone, Request.text.Refused r e gone ∧ next = { r with position := r.position + gone } := by
  rw [Read.text_eq_error_iff, Read.field_eq_error_iff]
  constructor
  · rintro (⟨gone, refused, rfl⟩ | ⟨rfl, octets, malformed, taken⟩)
    · exact ⟨gone, .text refused, rfl⟩
    · obtain ⟨fits, stands, rfl⟩ := Read.field_eq_ok_iff_advances.mp taken
      rw [List.length_append, Bytes.length_bigEndian]
      refine ⟨_, .notUtf8 fits stands fun value same => ?_, rfl⟩
      rw [← same, Text.ofUtf8?_utf8] at malformed
      contradiction
  · rintro ⟨gone, refused, rfl⟩
    cases refused with
    | short fixed missing => contradiction
    | text refused => exact .inl ⟨gone, refused, rfl⟩
    | @notUtf8 octets fits stands malformed =>
      have unread : Text.ofUtf8? octets = none :=
        Option.eq_none_iff_forall_ne_some.mpr fun value read =>
          malformed value (Text.utf8_of_ofUtf8? read)
      refine .inr ⟨rfl, octets, unread, Read.field_eq_ok_iff_advances.mpr ⟨fits, stands, ?_⟩⟩
      rw [List.length_append, Bytes.length_bigEndian]

theorem read_eq_error_iff :
    request.read r = .error e next ↔
      ∃ gone, request.Refused r e gone ∧ next = { r with position := r.position + gone } := by
  cases request with
  | u8 | u32 | i64 | u64 | bytes count =>
    exact (read_short_iff rfl).trans (refused_short_iff rfl).symm
  | field =>
    refine (Read.map_eq_error_iff.trans Read.field_eq_error_iff).trans ?_
    constructor
    · rintro ⟨gone, refused, rfl⟩
      exact ⟨gone, .field refused, rfl⟩
    · rintro ⟨gone, refused, rfl⟩
      cases refused with
      | short fixed missing => contradiction
      | field refused => exact ⟨gone, refused, rfl⟩
  | text => exact Read.map_eq_error_iff.trans read_text_eq_error_iff
  | setMark | toMark =>
    constructor
    · intro failed
      cases failed
    · rintro ⟨gone, refused, -⟩
      cases refused
      contradiction

theorem ask_eq_ok_iff {answer : Answer} :
    request.ask r = (.ok answer, next) ↔ request.read r = .ok answer next := by
  unfold ask
  cases request.read r with
  | ok answer' next' => simp
  | error e next' => simp

theorem ask_eq_error_iff :
    request.ask r = (.error e, next) ↔ request.read r = .error e next := by
  unfold ask
  cases request.read r with
  | ok answer next' => simp
  | error e' next' => simp

end
end Request

end CertifiedAccess.Wire
