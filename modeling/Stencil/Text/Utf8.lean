import Stencil.Text.CodePoint

/-!
# Stored form of text

Files hold text as UTF-8.  Text with a surrogate position has no stored form, and
bytes that are no UTF-8 hold no text.
-/

namespace Stencil.Text

/-- The stored form of characters. -/
def encodeChars (characters : List Char) : ByteArray :=
  (String.ofList characters).toUTF8

/-- The characters stored in bytes. -/
def decode? (bytes : ByteArray) : Option (List Char) :=
  (String.fromUTF8? bytes).map String.toList

/-- The stored form of text without surrogate positions. -/
def encode? (text : Text) : Option ByteArray :=
  (chars? text).map encodeChars

/-- The length of a name in its stored form. -/
def storedLength (string : String) : Nat :=
  string.utf8ByteSize

end Stencil.Text
