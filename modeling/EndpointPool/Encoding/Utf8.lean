/-!
# UTF-8

The bytes of a text, and the text of bytes.
-/

namespace EndpointPool.Utf8

/-- The bytes of a text. -/
def encode (text : List Char) : List UInt8 := text.flatMap String.utf8EncodeChar

/-- The text of bytes, if they are the bytes of one. -/
def decode? (bytes : List UInt8) : Option String := String.fromUTF8? bytes.toByteArray

end EndpointPool.Utf8
