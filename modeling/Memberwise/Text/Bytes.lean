/-! # Text as bytes

The UTF-8 reading of a list of bytes, which fails on any ill-formed sequence.
-/

namespace Memberwise.Text

/-- The UTF-8 bytes of a text. -/
def encodeUtf8 (text : String) : List UInt8 := text.toUTF8.toList

/-- The text whose UTF-8 encoding is given, if there is one. -/
def decodeUtf8? (bytes : List UInt8) : Option String :=
  String.fromUTF8? ⟨bytes.toArray⟩

end Memberwise.Text
