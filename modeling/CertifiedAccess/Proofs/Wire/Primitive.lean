import CertifiedAccess.Proofs.Wire.Acceptance

/-!
The forms of the reads that all others are made of: plain octets, fixed-width integers, fields, texts and
tagged octets. Each of them takes exactly what the matching writer gives.
-/
namespace CertifiedAccess.Wire

theorem field_eq_ok_iff {bytes written : Bytes} :
    field bytes = .ok written ↔
      bytes.length ≤ maxFieldLength ∧ written = Bytes.bigEndian 4 bytes.length ++ bytes := by
  unfold field
  split
  · rename_i large
    simp only [reduceCtorEq, false_iff, not_and]
    omega
  · rename_i fits
    simp only [Except.ok.injEq, eq_comm (b := written)]
    exact ⟨fun same => ⟨by omega, same⟩, fun h => h.2⟩

/-- The limit of fields leaves nothing for the first octet of their length. -/
theorem exists_cons_of_field {bytes written : Bytes} (wrote : field bytes = .ok written) :
    ∃ rest, written = 0 :: rest := by
  obtain ⟨fits, rfl⟩ := field_eq_ok_iff.mp wrote
  have limit : maxFieldLength < 256 ^ 3 := by decide
  have top : bytes.length / 256 ^ 3 = 0 := Nat.div_eq_of_lt (Nat.lt_of_le_of_lt fits limit)
  rw [Bytes.bigEndian_succ, top]
  exact ⟨_, rfl⟩

theorem Read.bytes_of_le {count : Nat} {r : Reader} (enough : count ≤ r.remaining) :
    Read.bytes count r =
      .ok ((r.input.drop r.position).take count) { r with position := r.position + count } :=
  if_pos enough

theorem Read.bytes_eq_error_iff {count : Nat} {r stop : Reader} {e : WireError} :
    Read.bytes count r = .error e stop ↔
      r.remaining < count ∧ e = .truncated count r.remaining ∧ stop = r := by
  unfold Read.bytes
  by_cases enough : count ≤ r.remaining
  · simp [enough]
  · simp [enough, Nat.lt_of_not_le enough, eq_comm]

namespace Read.Accepts

theorem bytes (count : Nat) :
    Accepts (Read.bytes count) fun value bytes => value = bytes ∧ bytes.length = count := by
  intro r value next
  unfold Read.bytes Reader.remaining
  have available : (r.input.drop r.position).length = r.input.length - r.position :=
    List.length_drop
  split
  · rename_i enough
    constructor
    · intro h
      cases h
      have taken : ((r.input.drop r.position).take count).length = count := by
        rw [List.length_take]
        omega
      exact ⟨_, ⟨rfl, taken⟩, List.take_prefix _ _, by rw [taken]⟩
    · rintro ⟨bytes, ⟨rfl, rfl⟩, stands, rfl⟩
      rw [List.prefix_iff_eq_take.mp stands, List.length_take, Nat.min_eq_left (by omega)]
  · rename_i short
    simp only [reduceCtorEq, false_iff]
    rintro ⟨bytes, ⟨rfl, rfl⟩, stands, -⟩
    have bound := stands.length_le
    omega

theorem number (width : Nat) :
    Accepts (Read.number width) fun n bytes => bytes = Bytes.bigEndian width n ∧ n < 256 ^ width := by
  refine (Accepts.map Bytes.ofBigEndian (Accepts.bytes width)).congr fun n bytes => ?_
  constructor
  · rintro ⟨_, ⟨rfl, rfl⟩, rfl⟩
    exact ⟨(Bytes.bigEndian_ofBigEndian _).symm, Bytes.ofBigEndian_lt _⟩
  · rintro ⟨rfl, small⟩
    refine ⟨_, ⟨rfl, Bytes.length_bigEndian width n⟩, ?_⟩
    rw [Bytes.ofBigEndian_bigEndian, Nat.mod_eq_of_lt small]

theorem u8 : Accepts Read.u8 fun value bytes => bytes = [value] := by
  refine (Accepts.map UInt8.ofNat (Accepts.number 1)).congr fun value bytes => ?_
  constructor
  · rintro ⟨n, ⟨rfl, _⟩, rfl⟩
    simp [Bytes.bigEndian]
  · rintro rfl
    exact ⟨value.toNat, ⟨by simp [Bytes.bigEndian], value.toNat_lt⟩, by simp⟩

theorem u32 : Accepts Read.u32 fun value bytes => bytes = Bytes.bigEndian 4 value.toNat := by
  refine (Accepts.map UInt32.ofNat (Accepts.number 4)).congr fun value bytes => ?_
  constructor
  · rintro ⟨n, ⟨rfl, small⟩, rfl⟩
    rw [UInt32.toNat_ofNat_of_lt' small]
  · rintro rfl
    exact ⟨value.toNat, ⟨rfl, value.toNat_lt⟩, by simp⟩

theorem u64 : Accepts Read.u64 fun value bytes => bytes = Bytes.bigEndian 8 value.toNat := by
  refine (Accepts.map UInt64.ofNat (Accepts.number 8)).congr fun value bytes => ?_
  constructor
  · rintro ⟨n, ⟨rfl, small⟩, rfl⟩
    rw [UInt64.toNat_ofNat_of_lt' small]
  · rintro rfl
    exact ⟨value.toNat, ⟨rfl, value.toNat_lt⟩, by simp⟩

theorem i64 : Accepts Read.i64 fun value bytes => bytes = Bytes.bigEndian 8 value.toUInt64.toNat := by
  refine (Accepts.map UInt64.toInt64 Accepts.u64).congr fun value bytes => ?_
  constructor
  · rintro ⟨word, rfl, rfl⟩
    rw [UInt64.toUInt64_toInt64]
  · rintro rfl
    exact ⟨value.toUInt64, rfl, (Int64.toInt64_toUInt64 value).symm⟩

/-- A field is what `Wire.field` writes: both ends have the same limit. -/
theorem field : Accepts Read.field fun value bytes => Wire.field value = .ok bytes := by
  have limited (length : UInt32) :
      Accepts (do if maxFieldLength < length.toNat then throw (.tooLarge length.toNat)
                  Read.bytes length.toNat)
        fun value bytes => length.toNat ≤ maxFieldLength ∧ value = bytes ∧
          bytes.length = length.toNat := by
    by_cases large : maxFieldLength < length.toNat
    · rw [if_pos large]
      refine (Accepts.thrown_bind _ _).congr ?_
      intro value bytes
      simp [Nat.not_le.mpr large]
    · rw [if_neg large]
      refine (Accepts.bytes _).congr ?_
      intro value bytes
      simp [Nat.not_lt.mp large]
  refine (Accepts.bind Accepts.u32 limited).congr fun value bytes => ?_
  rw [field_eq_ok_iff]
  constructor
  · rintro ⟨length, _, _, rfl, ⟨small, rfl, same⟩, rfl⟩
    rw [same]
    exact ⟨small, rfl⟩
  · rintro ⟨small, rfl⟩
    have fits : value.length < UInt32.size := Nat.lt_of_le_of_lt small (by decide)
    have same : (UInt32.ofNat value.length).toNat = value.length := UInt32.toNat_ofNat_of_lt' fits
    exact ⟨UInt32.ofNat value.length, _, value, rfl, ⟨by rwa [same], rfl, same.symm⟩, by rw [same]⟩

theorem text :
    Accepts Read.text fun value bytes => Wire.field (Text.utf8 value) = .ok bytes := by
  have both : Accepts Read.text fun value bytes =>
      ∃ octets, Wire.field octets = .ok bytes ∧ octets = Text.utf8 value := by
    refine Accepts.bind_nil Accepts.field fun octets => ?_
    cases written : Text.ofUtf8? octets with
    | some s =>
      refine (Accepts.returned s).congr fun value bytes => ?_
      rw [← Text.ofUtf8?_eq_some_iff, written]
      simp [eq_comm]
    | none =>
      refine (Accepts.thrown _).congr fun value bytes => ?_
      rw [← Text.ofUtf8?_eq_some_iff, written]
      simp
  refine both.congr fun value bytes => ?_
  constructor
  · rintro ⟨_, formed, rfl⟩
    exact formed
  · intro formed
    exact ⟨_, formed, rfl⟩

end Read.Accepts
end CertifiedAccess.Wire
