/-
Texts as bytes: UTF-8 and back.

# Contents

`utf8` gives the bytes of a text, `ofUtf8?` the text of some bytes, if
they are UTF-8. Reading the bytes of a text gives the text back
(`ofUtf8?_utf8`).
-/

namespace Warden.Text

/-- The bytes of a text. -/
def utf8 (s : String) : List UInt8 := s.toList.flatMap String.utf8EncodeChar

/-- The text of some bytes, if they are UTF-8. -/
def ofUtf8? (bytes : List UInt8) : Option String := String.fromUTF8? ⟨bytes.toArray⟩

theorem toByteArray_eq (s : String) : s.toByteArray = ⟨(utf8 s).toArray⟩ := by
  rw [← String.utf8Encode_toList]
  exact ByteArray.ext (by simp [List.utf8Encode, utf8])

theorem ofUtf8?_utf8 (s : String) : ofUtf8? (utf8 s) = some s := by
  have h : (⟨(utf8 s).toArray⟩ : ByteArray).IsValidUTF8 := toByteArray_eq s ▸ s.isValidUTF8
  simp only [ofUtf8?, String.fromUTF8?, dif_pos h, Option.some.injEq]
  exact String.toByteArray_inj.1 (toByteArray_eq s).symm

end Warden.Text
