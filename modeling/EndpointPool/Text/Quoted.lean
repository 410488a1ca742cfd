import EndpointPool.Encoding.Hexadecimal
import EndpointPool.Unicode.Printable

/-!
# Quoted texts

A text between quotation marks, for listings. Characters that could not be told from others, or
that would spoil the line, are written by an escape: a letter for the common ones, and the
hexadecimal number of the character between braces for the rest.

## Main definitions

* `Text.escape`: how a character is written
* `Text.quote`: a quoted text
-/

namespace EndpointPool.Text

/-- A character written by its number. -/
def escapeCode (c : Char) : List Char := ['\\', 'u', '\x7b'] ++ Hex.digits c.toNat ++ ['\x7d']

/-- A character as it is written between quotation marks. -/
def escape (c : Char) : List Char :=
  match c with
  | '\x00' => ['\\', '0']
  | '\t' => ['\\', 't']
  | '\n' => ['\\', 'n']
  | '\r' => ['\\', 'r']
  | '"' => ['\\', '"']
  | '\\' => ['\\', '\\']
  | c => if Unicode.isPrintable c && !Unicode.extendsGrapheme c then [c] else escapeCode c

/-- A text between quotation marks. -/
def quote (text : String) : String :=
  String.ofList ('"' :: text.toList.flatMap escape ++ ['"'])

end EndpointPool.Text
