import CertifiedAccess.Proofs.Base64
import CertifiedAccess.Wire.Tagged

/-!
Texts and their octets. The UTF-8 form tells texts apart and is put together character by character;
ASCII octets are the form of their text. Base64 text survives trimming, and a trimmed text
is the base64 of one list of octets at most.
-/
namespace CertifiedAccess.Text

theorem utf8_inj {a b : String} : utf8 a = utf8 b ↔ a = b := by
  constructor
  · intro same
    have read := ofUtf8?_utf8 a
    rw [same, ofUtf8?_utf8] at read
    exact (Option.some.inj read).symm
  · intro same
    rw [same]

theorem utf8_ofList (chars : List Char) :
    utf8 (String.ofList chars) = chars.flatMap String.utf8EncodeChar := by
  simp [utf8, String.toUTF8_eq_toByteArray, List.utf8Encode, List.data_toByteArray]

theorem utf8EncodeChar_of_lt {c : Char} (ascii : c.toNat < 128) :
    String.utf8EncodeChar c = [UInt8.ofNat c.toNat] := by
  have size : c.utf8Size = 1 := by
    rw [Char.utf8Size_eq_one_iff, UInt32.le_iff_toNat_le]
    exact Nat.le_of_lt_succ ascii
  rw [String.utf8EncodeChar_eq_singleton size]
  rfl

theorem toNat_ofNat_octet (b : UInt8) : (Char.ofNat b.toNat).toNat = b.toNat := by
  have small := b.toNat_lt
  have valid : b.toNat.isValidChar := Or.inl (by omega)
  rw [Char.ofNat, dif_pos valid]
  rfl

theorem utf8_ofAscii {bytes : Bytes} (ascii : ∀ b ∈ bytes, b < 128) :
    utf8 (ofAscii bytes) = bytes := by
  rw [ofAscii, utf8_ofList]
  induction bytes with
  | nil => rfl
  | cons b rest ih =>
    rw [List.forall_mem_cons] at ascii
    have code := toNat_ofNat_octet b
    have small : (Char.ofNat b.toNat).toNat < 128 := by
      rw [code]
      exact ascii.1
    rw [List.map_cons, List.flatMap_cons, utf8EncodeChar_of_lt small, code, ih ascii.2,
      UInt8.ofNat_toNat]
    rfl

theorem trimList_eq_self {chars : List Char} (solid : ∀ c ∈ chars, isBlank c = false) :
    trimList chars = chars := by
  have whole (l : List Char) (h : ∀ c ∈ l, isBlank c = false) : l.dropWhile isBlank = l := by
    cases l with
    | nil => rfl
    | cons c rest => simp [h c List.mem_cons_self]
  rw [trimList, whole chars solid, whole chars.reverse, List.reverse_reverse]
  intro c mem
  exact solid c (List.mem_reverse.mp mem)

theorem isBlank_of_isSymbol {b : UInt8} (symbol : Base64.IsSymbol b) :
    isBlank (Char.ofNat b.toNat) = false := by
  obtain ⟨low, high, -⟩ := symbol
  have low : 43 ≤ b.toNat := low
  have high : b.toNat ≤ 122 := high
  simp only [isBlank, toNat_ofNat_octet, Bool.or_eq_false_iff, Bool.and_eq_false_iff,
    decide_eq_false_iff_not, beq_eq_false_iff_ne]
  omega

theorem trim_ofAscii {bytes : Bytes} (symbols : ∀ b ∈ bytes, Base64.IsSymbol b) :
    trim (ofAscii bytes) = ofAscii bytes := by
  have solid : ∀ c ∈ bytes.map (fun b => Char.ofNat b.toNat), isBlank c = false := by
    intro c mem
    obtain ⟨b, from_bytes, rfl⟩ := List.mem_map.mp mem
    exact isBlank_of_isSymbol (symbols b from_bytes)
  rw [trim, ofAscii, String.toList_ofList, trimList_eq_self solid]

end CertifiedAccess.Text

namespace CertifiedAccess

theorem utf8_encodeBase64 (bytes : Bytes) :
    Text.utf8 (encodeBase64 bytes) = Base64.standard.encode bytes := by
  refine Text.utf8_ofAscii ?_
  intro b mem
  have high : b ≤ 122 := (Base64.isSymbol_of_mem_encode bytes b mem).2.1
  exact Nat.lt_of_le_of_lt high (by decide)

theorem trim_encodeBase64 (bytes : Bytes) :
    Text.trim (encodeBase64 bytes) = encodeBase64 bytes :=
  Text.trim_ofAscii (Base64.isSymbol_of_mem_encode bytes)

theorem decodeBase64_eq_ok_iff {text : String} {bytes : Bytes} :
    decodeBase64 text = .ok bytes ↔
      Base64.decode? (Text.utf8 (Text.trim text)) = some bytes := by
  unfold decodeBase64
  cases Base64.decode? (Text.utf8 (Text.trim text)) with
  | none => simp
  | some octets => simp

/-- White space around it aside, a text is read as octets exactly if it is the one written for them. -/
theorem decodeBase64_eq_ok_iff_trim {text : String} {bytes : Bytes} :
    decodeBase64 text = .ok bytes ↔ Text.trim text = encodeBase64 bytes := by
  rw [decodeBase64_eq_ok_iff, Base64.decode?_eq_some_iff, ← utf8_encodeBase64, Text.utf8_inj]

theorem decodeBase64_encodeBase64 (bytes : Bytes) :
    decodeBase64 (encodeBase64 bytes) = .ok bytes :=
  decodeBase64_eq_ok_iff_trim.mpr (trim_encodeBase64 bytes)

end CertifiedAccess
