import CertifiedAccess.Http.Canonical
import CertifiedAccess.Proofs.Text

/-!
Header fields under change. What is done under one name leaves the values of all others alone, and a name
is the same however its letters are cased.
-/
namespace CertifiedAccess.Http

/-- One change of the fields under a name. -/
inductive HeaderEdit where
  | set (name : HeaderName) (value : HeaderValue)
  | append (name : HeaderName) (value : HeaderValue)
  | remove (name : HeaderName)

namespace HeaderEdit

def name : HeaderEdit → HeaderName
  | .set name _ | .append name _ | .remove name => name

def apply (headers : Headers) : HeaderEdit → Headers
  | .set name value => headers.set name value
  | .append name value => headers.append name value
  | .remove name => headers.remove name

theorem values_apply_of_ne (headers : Headers) {edit : HeaderEdit} {name : HeaderName}
    (different : edit.name ≠ name) : (edit.apply headers).values name = headers.values name := by
  cases edit with
  | set _ value => exact headers.values_set_of_ne value different
  | append _ value => exact headers.values_append_of_ne value different
  | remove _ => exact headers.values_remove_of_ne different

end HeaderEdit

/-- The headers after changes, made one after the other. -/
def Headers.edit (headers : Headers) (edits : List HeaderEdit) : Headers :=
  edits.foldl HeaderEdit.apply headers

theorem Headers.values_edit_of_untouched {edits : List HeaderEdit} {name : HeaderName}
    (untouched : ∀ edit ∈ edits, edit.name ≠ name) (headers : Headers) :
    (headers.edit edits).values name = headers.values name := by
  induction edits generalizing headers with
  | nil => rfl
  | cons edit rest ih =>
    rw [List.forall_mem_cons] at untouched
    calc ((headers.edit (edit :: rest)).values name)
        = (edit.apply headers).values name := ih untouched.2 (edit.apply headers)
      _ = headers.values name := edit.values_apply_of_ne headers untouched.1

/-- Two spellings of one word, in letters of either case. -/
def SameLetters (a b : String) : Prop :=
  a.toList.map Char.toLower = b.toList.map Char.toLower

instance (a b : String) : Decidable (SameLetters a b) := inferInstanceAs (Decidable (_ = _))

/-- Only ASCII has cases here. -/
theorem toLower_of_le {c : Char} (high : 128 ≤ c.toNat) : c.toLower = c := by
  unfold Char.toLower
  rw [dif_neg]
  rintro ⟨-, low⟩
  have bound : c.toNat ≤ 90 := low
  omega

/-- What holds of each ASCII character and its lower case holds of all characters. -/
theorem eq_toLower_of_ascii {α : Type} {f : Char → α}
    (ascii : ∀ n < 128, f (Char.ofNat n).toLower = f (Char.ofNat n)) (c : Char) :
    f c.toLower = f c := by
  by_cases low : c.toNat < 128
  · have same := ascii c.toNat low
    rwa [Char.ofNat_toNat] at same
  · rw [toLower_of_le (by omega)]

theorem isTokenChar_toLower (c : Char) : isTokenChar c.toLower = isTokenChar c :=
  eq_toLower_of_ascii (by decide +kernel) c

theorem utf8Size_toLower (c : Char) : c.toLower.utf8Size = c.utf8Size :=
  eq_toLower_of_ascii (by decide +kernel) c

/-- A property of texts that goes by their letters in lower case. -/
theorem SameLetters.map_eq {α : Type} {f : Char → α} (cased : ∀ c : Char, f c.toLower = f c)
    {a b : String} (same : SameLetters a b) : a.toList.map f = b.toList.map f := by
  have lowered (text : String) : (text.toList.map Char.toLower).map f = text.toList.map f := by
    rw [List.map_map]
    exact List.map_congr_left fun c _ => cased c
  rw [← lowered a, ← lowered b, same]

theorem SameLetters.utf8ByteSize_eq {a b : String} (same : SameLetters a b) :
    a.utf8ByteSize = b.utf8ByteSize := by
  have octets (text : String) :
      text.utf8ByteSize = (text.toList.flatMap String.utf8EncodeChar).length := by
    rw [← Text.utf8_ofList, String.ofList_toList]
    rfl
  rw [octets, octets, List.length_flatMap, List.length_flatMap]
  simp only [String.length_utf8EncodeChar, same.map_eq utf8Size_toLower]

/-- A header's name is the same in whatever case it is spelled. -/
theorem HeaderName.ofText?_congr {a b : String} (same : SameLetters a b) :
    HeaderName.ofText? a = HeaderName.ofText? b := by
  have size := same.utf8ByteSize_eq
  have empty : a.isEmpty = b.isEmpty := by
    rw [String.isEmpty_eq_utf8ByteSize_beq_zero, String.isEmpty_eq_utf8ByteSize_beq_zero, size]
  have solid : a.toList.all isTokenChar = b.toList.all isTokenChar := by
    have each := congrArg (List.all · id) (same.map_eq isTokenChar_toLower)
    simpa only [List.all_map, Function.id_comp] using each
  have token : isToken a = isToken b := by
    simp only [isToken, empty, solid]
  have lowered : a.toList.map Char.toLower = b.toList.map Char.toLower := same
  simp only [HeaderName.ofText?, size, token, lowered]

end CertifiedAccess.Http
