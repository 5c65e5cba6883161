import CertifiedAccess.Bytes

/-!
The UTF-8 form of a text. Reading accepts exactly what writing produces.
-/
namespace CertifiedAccess.Text

def utf8 (text : String) : Bytes :=
  text.toUTF8.data.toList

/-- The text that these octets write, if they are well-formed UTF-8. -/
def ofUtf8? (bytes : Bytes) : Option String :=
  String.fromUTF8? ⟨bytes.toArray⟩

/-- The text of ASCII octets, one character each. -/
def ofAscii (bytes : Bytes) : String :=
  String.ofList (bytes.map fun b => Char.ofNat b.toNat)

theorem ofUtf8?_utf8 (text : String) : ofUtf8? (utf8 text) = some text := by
  have h : (⟨text.toUTF8.data.toList.toArray⟩ : ByteArray) = text.toUTF8 := by simp
  unfold ofUtf8? utf8 String.fromUTF8?
  rw [h, String.toUTF8_eq_toByteArray, dif_pos text.isValidUTF8]
  rfl

theorem utf8_of_ofUtf8? {bytes : Bytes} {text : String} (h : ofUtf8? bytes = some text) :
    utf8 text = bytes := by
  unfold ofUtf8? String.fromUTF8? at h
  split at h
  · cases h
    rfl
  · contradiction

/-- UTF-8 is canonical: a text has one form, and a form has one text. -/
theorem ofUtf8?_eq_some_iff {bytes : Bytes} {text : String} :
    ofUtf8? bytes = some text ↔ bytes = utf8 text :=
  ⟨fun h => (utf8_of_ofUtf8? h).symm, fun h => h ▸ ofUtf8?_utf8 text⟩

end CertifiedAccess.Text
