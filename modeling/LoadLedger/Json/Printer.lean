import LoadLedger.Value

/-!
# Writing JSON

A value as JSON text on one line. Inside a string, quotes, backslashes and control characters are
escaped and all else stands as it is, so that no line end occurs in the text.
-/

namespace LoadLedger.Json

/-- One character inside a string. -/
def escapeChar (c : Char) : List Char :=
  if c == '"' || c == '\\' then ['\\', c]
  else if c == '\n' then ['\\', 'n']
  else if c == '\r' then ['\\', 'r']
  else if c == '\t' then ['\\', 't']
  else if c.toNat ≤ 0x1f then ['\\', 'u'] ++ Text.hexPadded 4 c.toNat
  else [c]

/-- A string between quotes. -/
def printString (s : String) : List Char :=
  '"' :: (s.toList.flatMap escapeChar ++ ['"'])

/-- One code point inside a string; a surrogate can only be escaped. -/
def escapePoint : CodePoint → List Char
  | .char c => escapeChar c
  | .surrogate s => s.escape

/-- A text between quotes. -/
def printText (t : AnyText) : List Char :=
  '"' :: (t.points.flatMap escapePoint ++ ['"'])

/-- A floating-point number. -/
def printFloat (x : Float) : List Char :=
  match Number.partsOf x with
  | .nan => ['N', 'a', 'N']
  | .infinite negative =>
    let word := ['I', 'n', 'f', 'i', 'n', 'i', 't', 'y']
    if negative then '-' :: word else word
  | .finite .. => Number.floatChars x

mutual

/-- A value as JSON text. -/
def print : Value → List Char
  | .null => ['n', 'u', 'l', 'l']
  | .bool b => if b then ['t', 'r', 'u', 'e'] else ['f', 'a', 'l', 's', 'e']
  | .int i => (toString i).toList
  | .float x => printFloat x
  | .text s => printString s
  | .brokenText t => printText (.broken t)
  | .list [] => ['[', ']']
  | .list (v :: items) => '[' :: (print v ++ printItems items)
  | .object [] => ['\x7b', '\x7d']
  | .object ((key, v) :: entries) =>
    '\x7b' :: (printString key ++ [':', ' '] ++ print v ++ printEntries entries)
  | .brokenObject (key :: keys) (v :: items) =>
    '\x7b' :: (printText key ++ [':', ' '] ++ print v ++ printKeyed keys items)
  | .brokenObject _ _ => ['\x7b', '\x7d']

/-- The items of a list after the first one, and the end of the list. -/
def printItems : List Value → List Char
  | [] => [']']
  | v :: items => [',', ' '] ++ print v ++ printItems items

/-- The entries of an object after the first one, and the end of the object. -/
def printEntries : List (String × Value) → List Char
  | [] => ['\x7d']
  | (key, v) :: entries =>
    [',', ' '] ++ printString key ++ [':', ' '] ++ print v ++ printEntries entries

/-- The items of an object after the first one, each after its key, and the end of the object. -/
def printKeyed : List AnyText → List Value → List Char
  | key :: keys, v :: items =>
    [',', ' '] ++ printText key ++ [':', ' '] ++ print v ++ printKeyed keys items
  | _, _ => ['\x7d']

end

end LoadLedger.Json
