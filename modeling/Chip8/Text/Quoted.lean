import Chip8.Text.CharSet.Extending
import Chip8.Text.CharSet.Graphic
import Chip8.Text.Hex

/-!
# Quoted text

A character or a text between quotes, in which no character is mistaken for the closing quote or
overlooked: tab, line feed, carriage return and NUL have short escapes, the backslash and the quote
itself follow a backslash, and a character that is not graphic, is a filler or joins the character
before it is written by its number.
-/

namespace Chip8.Quoted

/-- The Hangul fillers: letters by their class, and drawn as nothing. -/
def isFiller (c : Char) : Bool :=
  c = '\u115F' || c = '\u1160' || c = '\u3164' || c = '\uFFA0'

/-- The halfwidth sound marks of Katakana, which extend a character in a cell of their own. -/
def isHalfwidthMark (c : Char) : Bool :=
  c = '\uFF9E' || c = '\uFF9F'

/-- Whether a character can be seen and told apart when it is written as itself. -/
def standsForItself (c : Char) : Bool :=
  CharSet.graphic.contains c && !isFiller c &&
    (!CharSet.extending.contains c || isHalfwidthMark c)

/-- One character as it stands between two characters `quote`. -/
def escape (quote c : Char) : String :=
  if c = '\t' then "\\t"
  else if c = '\n' then "\\n"
  else if c = '\r' then "\\r"
  else if c.toNat = 0 then "\\0"
  else if c = '\\' || c = quote then String.ofList ['\\', c]
  else if standsForItself c then String.singleton c
  else "\\u\x7b" ++ Hex.lower 1 c.toNat ++ "\x7d"

/-- A character between single quotes. -/
def character (c : Char) : String :=
  "'" ++ escape '\'' c ++ "'"

/-- A text between double quotes. -/
def text (s : String) : String :=
  "\"" ++ String.join (s.toList.map (escape '"')) ++ "\""

end Chip8.Quoted
