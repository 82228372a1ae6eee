/-! # The bytes of a text

    Text reaches the program as bytes and leaves it as bytes, always in UTF-8.  `bytes`
    writes a text out and `ofBytes?` reads one back, refusing anything that is not the
    encoding of some text.

    `ofBytes?_bytes` and `bytes_of_ofBytes?` together say that `ofBytes?` accepts exactly
    what `bytes` writes.

    Core Lean 4 only. -/

namespace Gatehouse.Text

/-- The UTF-8 encoding of a text. -/
def bytes (s : String) : List UInt8 := s.toByteArray.data.toList

/-- The text that the bytes encode, if they are UTF-8. -/
def ofBytes? (bs : List UInt8) : Option String := String.fromUTF8? ⟨bs.toArray⟩

@[simp] theorem ofBytes?_bytes (s : String) : ofBytes? (bytes s) = some s := by
  have h : (⟨(bytes s).toArray⟩ : ByteArray) = s.toByteArray := by
    simp [bytes]
  simp [ofBytes?, String.fromUTF8?, h, s.isValidUTF8, String.fromUTF8]

theorem bytes_of_ofBytes? {bs : List UInt8} {s : String} (h : ofBytes? bs = some s) :
    bytes s = bs := by
  simp only [ofBytes?, String.fromUTF8?] at h
  split at h
  · obtain rfl := Option.some.inj h
    simp [bytes, String.fromUTF8]
  · simp at h

@[simp] theorem bytes_append (s t : String) : bytes (s ++ t) = bytes s ++ bytes t := by
  simp [bytes]

end Gatehouse.Text
