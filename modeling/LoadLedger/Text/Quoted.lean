import LoadLedger.Text.Printable

/-!
# Quoted text

A text inside a message or a container is quoted: single quotes, or double quotes if it holds a
single quote and no double one. The quote and the backslash are escaped by a backslash, line feed,
carriage return and tab have letters of their own, and every other unprintable character is written
by its code point in the shortest of three widths.
-/

namespace LoadLedger.Text

/-- The digits of a number to base 16 in lower case, padded with zeros to a width. -/
def hexPadded (width : Nat) (n : Nat) : List Char :=
  let digits := Nat.toDigits 16 n
  List.replicate (width - digits.length) '0' ++ digits

/-- The quote that surrounds a text. -/
def quoteOf (s : List Char) : Char :=
  if s.contains '\'' && !s.contains '"' then '"' else '\''

/-- One character as it stands between quotes. -/
def escapeChar (quote c : Char) : List Char :=
  if c == quote || c == '\\' then ['\\', c]
  else if c == '\n' then ['\\', 'n']
  else if c == '\r' then ['\\', 'r']
  else if c == '\t' then ['\\', 't']
  else if isPrintable c then [c]
  else if c.toNat < 0x100 then ['\\', 'x'] ++ hexPadded 2 c.toNat
  else if c.toNat < 0x10000 then ['\\', 'u'] ++ hexPadded 4 c.toNat
  else ['\\', 'U'] ++ hexPadded 8 c.toNat

/-- The quoted form of a text. -/
def quotedChars (s : List Char) : List Char :=
  let quote := quoteOf s
  quote :: (s.flatMap (escapeChar quote) ++ [quote])

/-- The quoted form of a text. -/
def quoted (s : String) : String :=
  String.ofList (quotedChars s.toList)

example : quotedChars ['i', 't', '\'', 's'] = ['"', 'i', 't', '\'', 's', '"'] := by decide
example : quotedChars ['\n', '\x00'] = ['\'', '\\', 'n', '\\', 'x', '0', '0', '\''] := by decide

end LoadLedger.Text
