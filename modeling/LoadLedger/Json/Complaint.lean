/-!
# What can be wrong with a JSON text

A reader stops at the first character at which the text cannot go on, and says what it missed
there.
-/

namespace LoadLedger.Json

/-- What a reader misses or does not accept. -/
inductive Complaint
  | expectingValue
  | expectingName
  | expectingColon
  | expectingComma
  | extraData
  | unterminatedString
  | controlCharacter
  | badEscape
  | badCodeEscape
  | byteOrderMark
  deriving DecidableEq

/-- The wording of a complaint. -/
def Complaint.text : Complaint → String
  | .expectingValue => "Expecting value"
  | .expectingName => "Expecting property name enclosed in double quotes"
  | .expectingColon => "Expecting ':' delimiter"
  | .expectingComma => "Expecting ',' delimiter"
  | .extraData => "Extra data"
  | .unterminatedString => "Unterminated string starting at"
  | .controlCharacter => "Invalid control character at"
  | .badEscape => "Invalid \\escape"
  | .badCodeEscape => "Invalid \\uXXXX escape"
  | .byteOrderMark => "Unexpected UTF-8 BOM (decode using utf-8-sig)"

/-- A containing structure that a text nests. -/
inductive Nesting
  | array
  | object
  deriving DecidableEq

end LoadLedger.Json
