/-
# Quoted text

Text in double quotes, with escapes for the characters that would not be seen:
`\t`, `\n`, `\r`, `\0`, and the code point in braces behind `\u` for other
characters without a shape of their own.
-/

import Routing.Text.Graphic
import Routing.Text.Mark

namespace Routing
namespace Quoted

/-- One character between quotes. -/
def encodeChar (c : Char) : Text :=
  if c = '"' ∨ c = '\\' then ['\\', c]
  else if c = '\t' then "\\t".toList
  else if c = '\n' then "\\n".toList
  else if c = '\r' then "\\r".toList
  else if c = '\x00' then "\\0".toList
  else if Graphic.isGraphic c && !Mark.isExtending c then [c]
  else "\\u\x7b".toList ++ Text.hexadecimal c.toNat ++ ['\x7d']

/-- The text in quotes. -/
def encode (s : Text) : Text := '"' :: s.flatMap encodeChar ++ ['"']

end Quoted
end Routing
