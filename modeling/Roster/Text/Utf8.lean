/-!
# Texts as bytes

The bytes of a text are its UTF-8 form. Not all sequences of bytes are the form of a text.
-/

namespace Roster.Text

/-- The bytes of a text. -/
def utf8 (s : String) : List UInt8 :=
  s.toUTF8.data.toList

/-- The text that some bytes stand for, if they are one. -/
def ofUtf8? (bytes : List UInt8) : Option String :=
  String.fromUTF8? ⟨bytes.toArray⟩

/-- The bytes of a text stand for it. -/
@[simp]
theorem ofUtf8?_utf8 (s : String) : ofUtf8? (utf8 s) = some s := by
  have hbytes : (⟨(utf8 s).toArray⟩ : ByteArray) = s.toUTF8 := by simp [utf8]
  have hvalid : s.toUTF8.IsValidUTF8 := s.isValidUTF8
  simp only [ofUtf8?, hbytes, String.fromUTF8?]
  rw [dif_pos (by simpa using hvalid)]
  rfl

end Roster.Text
