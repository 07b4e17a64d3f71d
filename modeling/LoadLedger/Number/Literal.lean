import LoadLedger.Fault
import LoadLedger.Number.Shortest
import LoadLedger.Text.Blank
import LoadLedger.Text.Digit

/-!
# Number literals

The grammars by which a text is read as a number. Blanks may surround a literal, one sign may
precede it, digits of any script may form it, and single underscores may stand between two digits.
An integer has at most 4300 digits; a decimal has a fraction, an exponent, or both, or is one of the
words for infinity and NaN in any case.
-/

namespace LoadLedger.Number

/-- The greatest number of digits that an integer may be read from or written with. -/
def digitLimit : Nat := 4300

/-- The greatest size that a buffer may have. -/
def greatestSize : Nat := 9223372036854775807

/-- The digits of a numeral, and what follows them. An underscore belongs to the numeral if a digit
stands on either side of it. -/
def takeDigitsFrom (afterDigit : Bool) : List Char → List Nat × List Char
  | [] => ([], [])
  | c :: rest =>
    match Text.digit? c with
    | some d =>
      let (digits, after) := takeDigitsFrom true rest
      (d :: digits, after)
    | none =>
      if afterDigit && c == '_' && (rest.head?.bind Text.digit?).isSome then
        takeDigitsFrom false rest
      else ([], c :: rest)

/-- The digits of a numeral at the beginning of a text, and what follows them. -/
def takeDigits (s : List Char) : List Nat × List Char :=
  takeDigitsFrom false s

/-- The number that digits stand for. -/
def ofDigits (digits : List Nat) : Nat :=
  digits.foldl (fun n d => 10 * n + d) 0

/-- A sign, if there is one, and what follows it. -/
def takeSign : List Char → Bool × List Char
  | '-' :: rest => (true, rest)
  | '+' :: rest => (false, rest)
  | rest => (false, rest)

/-- The outcome of reading an integer: the number, or the count of its digits if they are too many,
or `none` for a text that is no integer. The digits are counted before what follows them is looked
at, unless that is an underscore, which would belong to the numeral. -/
def integerOf? (s : List Char) : Option (Except Nat Int) :=
  let (negative, rest) := takeSign (s.dropWhile Text.isNumeralBlank)
  let (digits, rest) := takeDigits rest
  if digits.isEmpty || rest.head? == some '_' then none
  else if digitLimit < digits.length then some (.error digits.length)
  else if rest.all Text.isNumeralBlank then
    some (.ok (if negative then -(ofDigits digits : Int) else ofDigits digits))
  else none

/-- Reads an integer. The message of a fault shows at most 200 characters of the quoted text. -/
def readInteger (s : String) : Except Fault Int :=
  match integerOf? s.toList with
  | some (.ok i) => .ok i
  | some (.error count) => .error (.tooManyDigits count)
  | none => .error (.badIntegerLiteral (String.ofList ((Text.quotedChars s.toList).take 200)))

/-- The fault of a broken text that is read as an integer. Each surrogate is as good as a question
mark there, which no integer holds, so that the text may only have too many digits before it. -/
def integerRefusal (t : BrokenText) : Fault :=
  match integerOf? (t.points.map fun p => p.char?.getD '?') with
  | some (.error count) => .tooManyDigits count
  | _ => .badIntegerLiteral (String.ofList (t.quotedChars.take 200))

/-- The number nearest to `digits * 10 ^ exponent`. Numbers far beyond the greatest or below the
least positive one are decided by their magnitude. -/
def ofScientific (negative : Bool) (digits : List Nat) (exponent : Int) : Float :=
  let significant := digits.dropWhile (· == 0)
  let magnitude : Int := significant.length + exponent
  if significant.isEmpty ∨ magnitude < -400 then Ratio.toFloat negative ⟨0, 1⟩
  else if 400 < magnitude then Ratio.toFloat negative ⟨tenTo 400, 1⟩
  else Ratio.toFloat negative (.decimal (ofDigits significant) exponent)

/-- The exponent of a decimal, and what follows it. -/
def takeExponent (s : List Char) : Option (Int × List Char) :=
  match s with
  | c :: rest =>
    if c == 'e' || c == 'E' then
      let (negative, rest) := takeSign rest
      let (digits, rest) := takeDigits rest
      if digits.isEmpty then none
      else some (if negative then -(ofDigits digits : Int) else ofDigits digits, rest)
    else some (0, s)
  | [] => some (0, [])

/-- The decimal that a text without sign and blanks stands for. -/
def unsignedDecimal? (negative : Bool) (s : List Char) : Option Float :=
  let (whole, rest) := takeDigits s
  let (fraction, rest) := match rest with
    | '.' :: rest => takeDigits rest
    | rest => ([], rest)
  if whole.isEmpty && fraction.isEmpty then none
  else match takeExponent rest with
    | some (exponent, []) =>
      some (ofScientific negative (whole ++ fraction) (exponent - fraction.length))
    | _ => none

/-- The decimal that a text stands for. -/
def decimalOf? (s : List Char) : Option Float :=
  let (negative, rest) := takeSign (Text.trimWith Text.isNumeralBlank s)
  match rest.map Char.toLower with
  | ['i', 'n', 'f'] | ['i', 'n', 'f', 'i', 'n', 'i', 't', 'y'] =>
    some (if negative then -1.0 / 0.0 else 1.0 / 0.0)
  | ['n', 'a', 'n'] => some (0.0 / 0.0)
  | _ => unsignedDecimal? negative rest

/-- Reads a decimal. -/
def readDecimal (s : String) : Except Fault Float :=
  match decimalOf? s.toList with
  | some x => .ok x
  | none => .error (.badDecimalLiteral (Text.quoted s))

/-- Writes an integer, if it does not have too many digits. -/
def writeInteger (i : Int) : Except Fault String :=
  if tenTo digitLimit ≤ i.natAbs then .error .unwritableInteger else .ok (toString i)

/-- Just the integers within the limit are written, and each as it is printed. -/
theorem writeInteger_eq_ok_iff {i : Int} {s : String} :
    writeInteger i = .ok s ↔ i.natAbs < tenTo digitLimit ∧ s = toString i := by
  rw [writeInteger]
  split
  · rename_i hle
    exact iff_of_false (by rintro ⟨⟩) fun h => Nat.not_lt.mpr hle h.1
  · rename_i hlt
    rw [Except.ok.injEq]
    exact ⟨fun h => ⟨Nat.not_le.mp hlt, h.symm⟩, fun h => h.2.symm⟩

/-- A number as it is given: an integer or a floating-point number. -/
inductive Amount
  | int (i : Int)
  | float (x : Float)

end LoadLedger.Number
