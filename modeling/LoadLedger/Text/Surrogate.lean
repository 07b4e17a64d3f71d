import LoadLedger.Text.Quoted

/-!
# Texts with surrogates

A character beyond the first 65536 can be escaped as a pair of surrogates, and an escape may also
spell a surrogate that has no partner. A text with such a surrogate is no sequence of characters.
It is a text all the same, which can be kept, compared, joined and quoted; what cannot be done is to
encode it.
-/

namespace LoadLedger

/-- One half of a pair that stands for a character. -/
structure Surrogate where
  unit : Nat
  inRange : 0xD800 ≤ unit ∧ unit ≤ 0xDFFF
  deriving DecidableEq

/-- What a text consists of: characters, and surrogates without a partner. -/
inductive CodePoint
  | char (c : Char)
  | surrogate (s : Surrogate)
  deriving DecidableEq

/-- A text that is broken by a surrogate. -/
structure BrokenText where
  points : List CodePoint
  broken : ∃ s, .surrogate s ∈ points
  deriving DecidableEq

/-- Any text: a whole one, which is a sequence of characters, or a broken one. -/
inductive AnyText
  | whole (s : String)
  | broken (t : BrokenText)
  deriving DecidableEq

/-- The characters of code points, if none of them is a surrogate. -/
def wholeChars? : List CodePoint → Option (List Char)
  | [] => some []
  | .char c :: points => (wholeChars? points).map (c :: ·)
  | .surrogate _ :: _ => none

theorem wholeChars?_map_char (chars : List Char) :
    wholeChars? (chars.map .char) = some chars := by
  induction chars with
  | nil => rfl
  | cons c chars ih => rw [List.map_cons, wholeChars?, ih, Option.map_some]

/-- Characters are found exactly in what they make up. -/
theorem eq_map_char_of_wholeChars? {points : List CodePoint} {chars : List Char}
    (h : wholeChars? points = some chars) : points = chars.map .char := by
  induction points generalizing chars with
  | nil =>
    cases h
    rfl
  | cons p points ih =>
    cases p with
    | char c =>
      obtain ⟨rest, hrest, rfl⟩ := Option.map_eq_some_iff.mp h
      rw [List.map_cons, ih hrest]
    | surrogate s => cases h

/-- A surrogate is all that breaks a text. -/
theorem exists_surrogate_of_wholeChars? {points : List CodePoint} (h : wholeChars? points = none) :
    ∃ s, .surrogate s ∈ points := by
  induction points with
  | nil => cases h
  | cons p points ih =>
    cases p with
    | char c =>
      obtain ⟨s, hs⟩ := ih (Option.map_eq_none_iff.mp h)
      exact ⟨s, List.mem_cons_of_mem _ hs⟩
    | surrogate s => exact ⟨s, List.mem_cons_self⟩

theorem not_mem_map_char (chars : List Char) (s : Surrogate) :
    .surrogate s ∉ chars.map CodePoint.char := by
  intro h
  obtain ⟨c, -, ⟨⟩⟩ := List.mem_map.mp h

namespace AnyText

instance : Coe String AnyText := ⟨.whole⟩

/-- The characters of a text, if it is whole. -/
def whole? : AnyText → Option String
  | .whole s => some s
  | .broken _ => none

/-- The code points of a text. -/
def points : AnyText → List CodePoint
  | .whole s => s.toList.map .char
  | .broken t => t.points

/-- The text of code points: a whole one, unless there is a surrogate among them. -/
def ofPoints (points : List CodePoint) : AnyText :=
  match h : wholeChars? points with
  | some chars => .whole (String.ofList chars)
  | none => .broken ⟨points, exists_surrogate_of_wholeChars? h⟩

instance : Append AnyText := ⟨fun s t => .ofPoints (s.points ++ t.points)⟩

/-! ## Laws -/

theorem ofPoints_map_char (chars : List Char) :
    ofPoints (chars.map .char) = .whole (String.ofList chars) := by
  rw [ofPoints]
  split
  · rename_i found h
    rw [wholeChars?_map_char] at h
    cases h
    rfl
  · rename_i h
    rw [wholeChars?_map_char] at h
    cases h

/-- **A text is its code points.** Whatever they are, there is one text of them, whole or broken. -/
theorem ofPoints_points (t : AnyText) : ofPoints t.points = t := by
  cases t with
  | whole s => rw [points, ofPoints_map_char, String.ofList_toList]
  | broken t =>
    rw [points, ofPoints]
    split
    · rename_i chars h
      obtain ⟨s, hs⟩ := t.broken
      rw [eq_map_char_of_wholeChars? h] at hs
      exact absurd hs (not_mem_map_char chars s)
    · rfl

theorem points_ofPoints (points : List CodePoint) : (ofPoints points).points = points := by
  rw [ofPoints]
  split
  · rename_i chars h
    rw [AnyText.points, String.toList_ofList, ← eq_map_char_of_wholeChars? h]
  · rfl

/-- **A text is whole exactly if there is no surrogate in it.** -/
theorem exists_whole_iff {t : AnyText} : (∃ s, t = .whole s) ↔ ∀ s, .surrogate s ∉ t.points := by
  cases t with
  | whole text => exact iff_of_true ⟨text, rfl⟩ (not_mem_map_char text.toList)
  | broken t =>
    obtain ⟨s, hs⟩ := t.broken
    exact iff_of_false (by rintro ⟨_, ⟨⟩⟩) fun h => h s hs

end AnyText

/-! ## Quoting and display -/

/-- The escape of a surrogate. -/
def Surrogate.escape (s : Surrogate) : List Char :=
  ['\\', 'u'] ++ Text.hexPadded 4 s.unit

/-- The character that a code point is, if it is one. -/
def CodePoint.char? : CodePoint → Option Char
  | .char c => some c
  | .surrogate _ => none

/-- A code point as it stands between quotes. -/
def CodePoint.escape (quote : Char) : CodePoint → List Char
  | .char c => Text.escapeChar quote c
  | .surrogate s => s.escape

/-- A code point as it is displayed. -/
def CodePoint.displayed : CodePoint → List Char
  | .char c => [c]
  | .surrogate s => s.escape

/-- The quoted form of a broken text. -/
def BrokenText.quotedChars (t : BrokenText) : List Char :=
  let quote := Text.quoteOf (t.points.filterMap CodePoint.char?)
  quote :: (t.points.flatMap (CodePoint.escape quote) ++ [quote])

/-- The quoted form of a broken text. -/
def BrokenText.quoted (t : BrokenText) : String :=
  String.ofList t.quotedChars

/-- The quoted form of any text. -/
def AnyText.quoted : AnyText → String
  | .whole s => Text.quoted s
  | .broken t => t.quoted

/-- A text as it is displayed where it cannot be refused: each surrogate by its escape. -/
def AnyText.displayed : AnyText → String
  | .whole s => s
  | .broken t => String.ofList (t.points.flatMap CodePoint.displayed)

/-! ## Encoding -/

/-- What keeps a text from being encoded: the surrogates that come first, in a row, and how many
code points stand before them. -/
structure Text.Unencodable where
  position : Nat
  surrogates : List Surrogate
  deriving DecidableEq

/-- The surrogates at the beginning. -/
def leadingSurrogates : List CodePoint → List Surrogate
  | .surrogate s :: points => s :: leadingSurrogates points
  | _ => []

/-- What keeps a broken text from being encoded. -/
def BrokenText.refusal (t : BrokenText) : Text.Unencodable :=
  let whole := t.points.takeWhile (·.char?.isSome)
  ⟨whole.length, leadingSurrogates (t.points.drop whole.length)⟩

example : (AnyText.ofPoints [.char 'a', .surrogate ⟨0xD83D, by decide⟩]).quoted = "'a\\ud83d'" := by
  decide +kernel

end LoadLedger
