import LoadLedger.Value

/-!
# Reading JSON

A reader of JSON texts that also knows the words for NaN and the infinities. It stops at the first
character at which the text cannot go on; the complaint and the place make up the fault. Of two
entries with one key the last one counts, at the place of the first.

The functions work on what remains of the text, so that a place is given by the remainder, and they
run on fuel that the length of the text bounds.
-/

namespace LoadLedger.Json

/-- What a reader does not read: numerals that are too long and values that are nested too deep. -/
structure Limits where
  digits : Nat
  nesting : Nat

/-- The limits for files. -/
def Limits.ofFiles [Depths] : Limits :=
  { digits := Number.digitLimit, nesting := Depths.reading }

/-- Why reading stops: the text goes wrong where `rest` begins, or a limit is passed. -/
inductive Stop
  | here (complaint : Complaint) (rest : List Char)
  | limit (cause : Fault)

/-- What a reader of `α` answers: the value and the remaining text. -/
abbrev Step (α : Type) := Except Stop (α × List Char)

/-- Is the character blank between the tokens of a text? -/
def isBlank (c : Char) : Bool :=
  c == ' ' || c == '\t' || c == '\n' || c == '\r'

/-- The text without the blanks at its beginning. -/
def skipBlanks (s : List Char) : List Char :=
  s.dropWhile isBlank

/-! ## Strings -/

/-- The value of a digit to base 16. -/
def hexDigit? (c : Char) : Option Nat :=
  if Text.isAsciiDigit c then some (Text.asciiDigitValue c)
  else if 'a' ≤ c && c ≤ 'f' then some (c.toNat - 'a'.toNat + 10)
  else if 'A' ≤ c && c ≤ 'F' then some (c.toNat - 'A'.toNat + 10)
  else none

/-- The number of four digits to base 16. -/
def codeUnit? (a b c d : Char) : Option Nat := do
  let a ← hexDigit? a
  let b ← hexDigit? b
  let c ← hexDigit? c
  let d ← hexDigit? d
  return ((a * 16 + b) * 16 + c) * 16 + d

/-- The character that a letter after a backslash stands for. -/
def escape? : Char → Option Char
  | '"' => some '"'
  | '\\' => some '\\'
  | '/' => some '/'
  | 'b' => some '\x08'
  | 'f' => some '\x0c'
  | 'n' => some '\n'
  | 'r' => some '\r'
  | 't' => some '\t'
  | _ => none

/-- Is the code unit the first half of a surrogate pair? -/
def isHighSurrogate (n : Nat) : Bool :=
  0xD800 ≤ n && n ≤ 0xDBFF

/-- Is the code unit the second half of a surrogate pair? -/
def isLowSurrogate (n : Nat) : Bool :=
  0xDC00 ≤ n && n ≤ 0xDFFF

/-- The code point of a code unit that has no partner. -/
def pointOfUnit (n : Nat) : CodePoint :=
  if h : 0xD800 ≤ n ∧ n ≤ 0xDFFF then .surrogate ⟨n, h⟩ else .char (Char.ofNat n)

/-- Reads what follows `\u`: four digits that do not end the text, and the second half of a
surrogate pair if the first half calls for it. -/
def readCodeEscape (rest : List Char) : Step CodePoint :=
  match rest with
  | 'u' :: a :: b :: c :: d :: e :: more =>
    match codeUnit? a b c d with
    | none => .error (.here .badCodeEscape rest)
    | some unit =>
      if isHighSurrogate unit then
        match e :: more with
        | '\\' :: 'u' :: a :: b :: c :: d :: e' :: more' =>
          match codeUnit? a b c d with
          | none => .error (.here .badCodeEscape more)
          | some second =>
            if isLowSurrogate second then
              .ok (.char (Char.ofNat (0x10000 + (unit - 0xD800) * 0x400 + (second - 0xDC00))),
                e' :: more')
            else .ok (pointOfUnit unit, e :: more)
        | _ => .ok (pointOfUnit unit, e :: more)
      else .ok (pointOfUnit unit, e :: more)
  | _ => .error (.here .badCodeEscape rest)

/-- Reads a string after its opening quote, where `start` is the text from that quote on and `done`
the code points read so far, last one first. -/
def readStringFor (start : List Char) : Nat → List CodePoint → List Char → Step AnyText
  | 0, _, s => .error (.here .unterminatedString s)
  | fuel + 1, done, s =>
    match s with
    | [] => .error (.here .unterminatedString start)
    | '"' :: rest => .ok (.ofPoints done.reverse, rest)
    | ['\\'] => .error (.here .unterminatedString start)
    | '\\' :: 'u' :: rest =>
      match readCodeEscape ('u' :: rest) with
      | .error stop => .error stop
      | .ok (p, rest) => readStringFor start fuel (p :: done) rest
    | '\\' :: letter :: rest =>
      match escape? letter with
      | none => .error (.here .badEscape s)
      | some c => readStringFor start fuel (.char c :: done) rest
    | c :: rest =>
      if c.toNat ≤ 0x1f then .error (.here .controlCharacter s)
      else readStringFor start fuel (.char c :: done) rest

/-- Reads a string after its opening quote. -/
def readString (s : List Char) : Step AnyText :=
  readStringFor ('"' :: s) (s.length + 1) [] s

/-! ## Numbers -/

/-- The digits at the beginning of a text, and what follows them. -/
def takeDigits (s : List Char) : List Nat × List Char :=
  ((s.takeWhile Text.isAsciiDigit).map Text.asciiDigitValue, s.dropWhile Text.isAsciiDigit)

/-- A minus sign, if there is one, and what follows it. -/
def takeMinus : List Char → Bool × List Char
  | '-' :: rest => (true, rest)
  | s => (false, s)

/-- The digits of a whole number: a zero stands by itself. -/
def takeWhole : List Char → List Nat × List Char
  | '0' :: rest => ([0], rest)
  | s => takeDigits s

/-- The fraction of a number, if one follows. -/
def takeFraction : List Char → List Nat × List Char
  | '.' :: rest => if (takeDigits rest).1.isEmpty then ([], '.' :: rest) else takeDigits rest
  | s => ([], s)

/-- The exponent of a number, if one follows. -/
def takeExponent (s : List Char) : Option Int × List Char :=
  match s with
  | c :: rest =>
    if c == 'e' || c == 'E' then
      let (negative, rest) := Number.takeSign rest
      let (digits, rest) := takeDigits rest
      if digits.isEmpty then (none, s)
      else
        let magnitude : Int := Number.ofDigits digits
        (some (if negative then -magnitude else magnitude), rest)
    else (none, s)
  | [] => (none, [])

/-- Reads a number. Without fraction and exponent it is an integer. -/
def readNumber (limits : Limits) (s : List Char) : Step Value :=
  let (negative, rest) := takeMinus s
  let (whole, rest) := takeWhole rest
  if whole.isEmpty then .error (.here .expectingValue s)
  else
    let (fraction, rest) := takeFraction rest
    let (exponent, rest) := takeExponent rest
    if fraction.isEmpty && exponent.isNone then
      if limits.digits < whole.length then .error (.limit (.tooManyDigits whole.length))
      else
        let magnitude : Int := Number.ofDigits whole
        .ok (.int (if negative then -magnitude else magnitude), rest)
    else
      .ok (.float (Number.ofScientific negative (whole ++ fraction)
        (exponent.getD 0 - fraction.length)), rest)

/-! ## Values -/

/-- The words that stand for values. -/
def words : List (List Char × Value) :=
  [ (['n', 'u', 'l', 'l'], .null),
    (['t', 'r', 'u', 'e'], .bool true),
    (['f', 'a', 'l', 's', 'e'], .bool false),
    (['N', 'a', 'N'], .float (0.0 / 0.0)),
    (['I', 'n', 'f', 'i', 'n', 'i', 't', 'y'], .float (1.0 / 0.0)),
    (['-', 'I', 'n', 'f', 'i', 'n', 'i', 't', 'y'], .float (-1.0 / 0.0)) ]

/-- Reads a word, or else a number. -/
def readScalar (limits : Limits) (s : List Char) : Step Value :=
  match words.find? (·.1.isPrefixOf s) with
  | some (word, v) => .ok (v, s.drop word.length)
  | none => readNumber limits s

/-- Sets the value of a key. -/
def putEntry (entries : List (AnyText × Value)) (key : AnyText) (v : Value) :
    List (AnyText × Value) :=
  if entries.any (·.1 == key) then entries.map fun e => if e.1 == key then (key, v) else e
  else entries ++ [(key, v)]

mutual

/-- Reads a value that may nest `depth` levels further. -/
def readValueFor (limits : Limits) : Nat → Nat → List Char → Step Value
  | 0, _, s => .error (.here .expectingValue s)
  | fuel + 1, depth, s =>
    match s with
    | '"' :: rest =>
      match readString rest with
      | .error stop => .error stop
      | .ok (text, rest) => .ok (.ofText text, rest)
    | '[' :: rest =>
      if depth = 0 then .error (.limit (.nestedTooDeep .array))
      else match skipBlanks rest with
        | ']' :: rest => .ok (.list [], rest)
        | rest => readItemsFor limits fuel (depth - 1) [] rest
    | '\x7b' :: rest =>
      if depth = 0 then .error (.limit (.nestedTooDeep .object))
      else match skipBlanks rest with
        | '\x7d' :: rest => .ok (.object [], rest)
        | rest => readEntriesFor limits fuel (depth - 1) [] rest
    | _ => readScalar limits s

/-- Reads the items of a list from the next one on, after those in `done`. -/
def readItemsFor (limits : Limits) : Nat → Nat → List Value → List Char → Step Value
  | 0, _, _, s => .error (.here .expectingValue s)
  | fuel + 1, depth, done, s =>
    match readValueFor limits fuel depth s with
    | .error stop => .error stop
    | .ok (v, rest) =>
      match skipBlanks rest with
      | ']' :: rest => .ok (.list (v :: done).reverse, rest)
      | ',' :: rest => readItemsFor limits fuel depth (v :: done) (skipBlanks rest)
      | rest => .error (.here .expectingComma rest)

/-- Reads the entries of an object from the next one on, after those in `done`. -/
def readEntriesFor (limits : Limits) :
    Nat → Nat → List (AnyText × Value) → List Char → Step Value
  | 0, _, _, s => .error (.here .expectingName s)
  | fuel + 1, depth, done, s =>
    match s with
    | '"' :: rest =>
      match readString rest with
      | .error stop => .error stop
      | .ok (key, rest) =>
        match skipBlanks rest with
        | ':' :: rest =>
          match readValueFor limits fuel depth (skipBlanks rest) with
          | .error stop => .error stop
          | .ok (v, rest) =>
            match skipBlanks rest with
            | '\x7d' :: rest => .ok (.ofEntries (putEntry done key v), rest)
            | ',' :: rest =>
              readEntriesFor limits fuel depth (putEntry done key v) (skipBlanks rest)
            | rest => .error (.here .expectingComma rest)
        | rest => .error (.here .expectingColon rest)
    | _ => .error (.here .expectingName s)

end

/-- Reads the value of a whole text. -/
def readText (limits : Limits) (s : List Char) : Except Stop Value :=
  match s with
  | '\uFEFF' :: _ => .error (.here .byteOrderMark s)
  | _ =>
    match readValueFor limits (2 * s.length + 2) limits.nesting (skipBlanks s) with
    | .error stop => .error stop
    | .ok (v, rest) =>
      match skipBlanks rest with
      | [] => .ok v
      | rest => .error (.here .extraData rest)

/-- The fault of a text that goes wrong where `rest` begins. Lines and columns count from one,
characters from zero. -/
def faultAt (s : List Char) (complaint : Complaint) (rest : List Char) : Fault :=
  let before := s.take (s.length - rest.length)
  let column := (before.reverse.takeWhile (· != '\n')).length + 1
  .malformedJson complaint (before.count '\n' + 1) column before.length

/-- Reads a JSON text. -/
def read (limits : Limits) (s : List Char) : Except Fault Value :=
  match readText limits s with
  | .ok v => .ok v
  | .error (.here complaint rest) => .error (faultAt s complaint rest)
  | .error (.limit cause) => .error cause

end LoadLedger.Json
