import LoadLedger.Json.Printer
import LoadLedger.Json.Reader
import LoadLedger.Proofs.Number.Numerals
import LoadLedger.Proofs.Text.Lines
import Mathlib.Data.List.Chain
import Mathlib.Data.List.Forall2

/-!
# Records on one line

A record of texts and integers can be written as JSON text on one line in many ways. A character of
a text may stand for itself, or it may be escaped by a letter, by its number, or by a surrogate
pair (`Json.SpellsPoint`); and spaces and tabs may stand between the tokens. All of them are read as
the record (`Json.read_of_spellsRecord`), and what the printer writes is one of them
(`Json.spellsRecord_print`).

A surrogate without a partner can be escaped like a character, and `Json.readCodeEscape` keeps it.
Two halves of a pair that follow each other in a text cannot be written at all, as their escapes are
those of one character; such a text has no spelling (`Json.Unpaired`).

**From the inside out.** Numbers are read up to where they end (`Json.readNumber_toString`), strings
character by character (`Json.readString_of_spellsText`), the value of an entry
(`Json.readValueFor_of_spellsDetail`), the entry with the gaps around its tokens
(`Json.readEntriesFor_of_spellsEntry`), and then the entries in turn. No line breaks off inside of
such a record (`Json.isUnbroken_of_spellsRecord`).
-/

namespace LoadLedger.Json

/-! ## Integers -/

section Digits

/-- `Number.ofDigits` takes one digit more at the end, as `Nat.toDigits` gives it. -/
theorem ofDigits_concat (digits : List Nat) (d : Nat) :
    Number.ofDigits (digits ++ [d]) = 10 * Number.ofDigits digits + d := by
  rw [Number.ofDigits, List.foldl_append, Number.ofDigits]
  rfl

/-- An integer is the number of the digits that it is written with. -/
theorem ofDigits_toDigits (n : Nat) :
    Number.ofDigits ((Nat.toDigits 10 n).map Text.asciiDigitValue) = n := by
  induction n using Nat.strongRecOn with
  | ind n ih =>
    have hdigit : ∀ d < 10, Text.asciiDigitValue d.digitChar = d :=
      fun d hd => Nat.toNat_digitChar_sub_48_of_lt_ten hd
    rw [Nat.toDigits_eq_if (by decide)]
    split
    · rename_i hsmall
      rw [List.map_singleton, hdigit n hsmall]
      exact Nat.zero_add n
    · rename_i hlarge
      rw [List.map_append, List.map_singleton, ofDigits_concat, ih _ (by omega),
        hdigit _ (Nat.mod_lt n (by decide)), Nat.div_add_mod]

/-- Only zero begins with a zero. -/
theorem eq_zero_of_head?_toDigits {n : Nat} (h : (Nat.toDigits 10 n).head? = some '0') :
    n = 0 := by
  induction n using Nat.strongRecOn with
  | ind n ih =>
    rw [Nat.toDigits_eq_if (by decide)] at h
    split at h
    · exact Nat.digitChar_eq_zero.mp (Option.some.inj h)
    · rename_i hlarge
      rw [List.head?_append_of_ne_nil _ Nat.toDigits_ne_nil] at h
      have hzero := ih _ (by omega) h
      omega

/-- The digits of the printer (`Char.isDigit`) are digits for the reader (`Text.isAsciiDigit`). -/
theorem isAsciiDigit_of_isDigit {c : Char} (h : c.isDigit = true) : Text.isAsciiDigit c = true := by
  rw [Char.isDigit, Bool.and_eq_true, decide_eq_true_iff, decide_eq_true_iff] at h
  rw [Text.isAsciiDigit, Bool.and_eq_true, decide_eq_true_iff, decide_eq_true_iff]
  exact h

/-- So all that `Nat.toDigits` writes is taken by `takeDigits`. -/
theorem isAsciiDigit_toDigits (n : Nat) : ∀ c ∈ Nat.toDigits 10 n, Text.isAsciiDigit c = true :=
  fun _ hc => isAsciiDigit_of_isDigit (Nat.isDigit_of_mem_toDigits (by decide) (by decide) hc)

/-- May a numeral end before the text? Neither a digit nor what begins a fraction or an exponent may
follow. -/
def EndsNumeral (rest : List Char) : Prop :=
  ∀ c ∈ rest.head?, Text.isAsciiDigit c = false ∧ c ≠ '.' ∧ c ≠ 'e' ∧ c ≠ 'E'

variable {rest : List Char}

/-- `takeDigits` takes the digits of a number and no more. -/
theorem takeDigits_toDigits (n : Nat) (hrest : EndsNumeral rest) :
    takeDigits (Nat.toDigits 10 n ++ rest) =
      ((Nat.toDigits 10 n).map Text.asciiDigitValue, rest) := by
  have hends : rest.takeWhile Text.isAsciiDigit = [] ∧ rest.dropWhile Text.isAsciiDigit = rest := by
    cases rest with
    | nil => exact ⟨rfl, rfl⟩
    | cons c rest =>
      have hc := (hrest c rfl).1
      rw [List.takeWhile_cons, List.dropWhile_cons, hc]
      exact ⟨rfl, rfl⟩
  rw [takeDigits, List.takeWhile_append_of_pos (isAsciiDigit_toDigits n),
    List.dropWhile_append_of_pos (isAsciiDigit_toDigits n), hends.1, hends.2, List.append_nil]

/-- So does `takeWhole`, which would stop after a zero: only the number zero begins with one
(`eq_zero_of_head?_toDigits`). -/
theorem takeWhole_toDigits (n : Nat) (hrest : EndsNumeral rest) :
    takeWhole (Nat.toDigits 10 n ++ rest) =
      ((Nat.toDigits 10 n).map Text.asciiDigitValue, rest) := by
  by_cases hzero : n = 0
  · subst hzero
    rfl
  · rw [takeWhole.eq_def]
    split
    · rename_i more hmore
      refine absurd (eq_zero_of_head?_toDigits ?_) hzero
      rw [← List.head?_append_of_ne_nil _ Nat.toDigits_ne_nil, hmore]
      rfl
    · exact takeDigits_toDigits n hrest

theorem takeFraction_of_endsNumeral (hrest : EndsNumeral rest) :
    takeFraction rest = ([], rest) := by
  rw [takeFraction.eq_def]
  split
  · exact absurd rfl (hrest _ rfl).2.1
  · rfl

/-- Where a numeral ends there is no exponent, so that `readNumber` answers no floating-point
number. -/
theorem takeExponent_of_endsNumeral (hrest : EndsNumeral rest) :
    takeExponent rest = (none, rest) := by
  cases rest with
  | nil => rfl
  | cons c rest =>
    obtain ⟨-, -, he, hE⟩ := hrest c rfl
    rw [takeExponent, if_neg]
    simp [he, hE]

end Digits

/-- The characters of an integer: its digits, after a minus sign if it is negative. -/
theorem toList_toString (i : Int) :
    (toString i).toList = (if i < 0 then ['-'] else []) ++ Nat.toDigits 10 i.natAbs := by
  rw [Int.toString_eq_repr, Int.repr_eq_if]
  split
  · rename_i hnonneg
    rw [Nat.toList_repr, if_neg (by omega), List.nil_append]
    congr 1
    omega
  · rename_i hnegative
    rw [String.toList_append, Nat.toList_repr, if_pos (by omega)]
    congr 2
    omega

/-- **An integer is read back** if it does not have too many digits. Each stage of `readNumber`
takes what `toString` has written: the sign, the digits, and then neither a fraction nor an
exponent. -/
theorem readNumber_toString {limits : Limits} {i : Int} {rest : List Char}
    (hlimit : i.natAbs < Number.tenTo limits.digits) (hdigits : 0 < limits.digits)
    (hrest : EndsNumeral rest) :
    readNumber limits ((toString i).toList ++ rest) = .ok (.int i, rest) := by
  have hminus : takeMinus ((toString i).toList ++ rest) =
      (decide (i < 0), Nat.toDigits 10 i.natAbs ++ rest) := by
    rw [toList_toString]
    by_cases hnegative : i < 0
    · rw [if_pos hnegative, decide_eq_true hnegative]
      rfl
    -- a number that is not negative begins with a digit, which is no minus sign
    · rw [if_neg hnegative, decide_eq_false hnegative, List.nil_append, takeMinus.eq_def]
      split
      · rename_i more hmore
        have hdigit : Text.isAsciiDigit '-' = true := by
          refine isAsciiDigit_toDigits i.natAbs '-' (List.mem_of_mem_head? ?_)
          rw [← List.head?_append_of_ne_nil _ Nat.toDigits_ne_nil, hmore]
          rfl
        exact absurd hdigit (by decide)
      · rfl
  -- the digits are not too many for the limit, and there is one at least
  have hcount : ¬ limits.digits < ((Nat.toDigits 10 i.natAbs).map Text.asciiDigitValue).length := by
    rw [List.length_map, Nat.not_lt, Nat.length_toDigits_le_iff (by decide) hdigits]
    exact hlimit
  have hne : ((Nat.toDigits 10 i.natAbs).map Text.asciiDigitValue).isEmpty = false := by
    simp [Nat.toDigits_ne_nil]
  rw [readNumber, hminus]
  dsimp only
  rw [takeWhole_toDigits _ hrest]
  dsimp only
  rw [hne, if_neg Bool.false_ne_true, takeFraction_of_endsNumeral hrest]
  dsimp only
  rw [takeExponent_of_endsNumeral hrest]
  dsimp only
  rw [List.isEmpty_nil, Option.isNone_none, Bool.and_self, if_pos rfl, if_neg hcount,
    ofDigits_toDigits]
  congr 3
  split <;> rename_i h <;> rw [decide_eq_true_iff] at h <;> omega

/-! ## Texts -/

/-- **How a code point may be written** within a text: by itself, by a letter after a backslash, by
its number, or, beyond 65535, by the numbers of a surrogate pair. A lone surrogate has its number
only. These are the ways that `readStringFor` tells apart. -/
inductive SpellsPoint : CodePoint → List Char → Prop
  /-- A character that is printed as it is. -/
  | plain {c : Char} (hprintable : 0x1f < c.toNat) (hquote : c ≠ '"') (hbackslash : c ≠ '\\') :
    SpellsPoint (.char c) [c]
  /-- One that has a letter of its own, such as a line feed. -/
  | letter {c letter : Char} (h : escape? letter = some c) :
    SpellsPoint (.char c) ['\\', letter]
  /-- The number of the code point, in four digits. This is the only way for a surrogate. -/
  | code {a₁ a₂ a₃ a₄ : Char} {unit : Nat} (h : codeUnit? a₁ a₂ a₃ a₄ = some unit) :
    SpellsPoint (pointOfUnit unit) ['\\', 'u', a₁, a₂, a₃, a₄]
  /-- The numbers of two surrogates that make up a character beyond 65535. -/
  | pair {c a₁ a₂ a₃ a₄ b₁ b₂ b₃ b₄ : Char} {high low : Nat}
    (ha : codeUnit? a₁ a₂ a₃ a₄ = some high) (hhigh : isHighSurrogate high = true)
    (hb : codeUnit? b₁ b₂ b₃ b₄ = some low) (hlow : isLowSurrogate low = true)
    (h : c.toNat = 0x10000 + (high - 0xD800) * 0x400 + (low - 0xDC00)) :
    SpellsPoint (.char c) ['\\', 'u', a₁, a₂, a₃, a₄, '\\', 'u', b₁, b₂, b₃, b₄]

/-- Are the code points the two halves of a pair, in their order? -/
def IsPair : CodePoint → CodePoint → Prop
  | .surrogate s, .surrogate t => isHighSurrogate s.unit = true ∧ isLowSurrogate t.unit = true
  | _, _ => False

/-- Is there no pair among the code points? The two halves of one are written as the character that
they stand for is, so that nobody can tell them from it. -/
def Unpaired (points : List CodePoint) : Prop :=
  points.IsChain fun p q => ¬ IsPair p q

instance (p q : CodePoint) : Decidable (IsPair p q) :=
  match p, q with
  | .surrogate _, .surrogate _ => inferInstanceAs (Decidable (_ ∧ _))
  | .char _, _ | .surrogate _, .char _ => isFalse id

instance (points : List CodePoint) : Decidable (Unpaired points) :=
  inferInstanceAs (Decidable (List.IsChain _ points))

/-- How a text may be written between quotes. -/
def SpellsText (t : AnyText) (written : List Char) : Prop :=
  Unpaired t.points ∧
    ∃ pieces, List.Forall₂ SpellsPoint t.points pieces ∧ written = '"' :: (pieces.flatten ++ ['"'])

/-- Characters are no halves of anything. -/
theorem unpaired_whole (s : String) : Unpaired (AnyText.whole s).points := by
  rw [Unpaired, AnyText.points, List.isChain_map]
  exact (List.pairwise_of_forall fun _ _ => id).isChain

/-! ### Reading a text -/

/-- May the text follow a code point, without its beginning being taken for the other half? Only
after the first half of a pair does `readCodeEscape` look further, and then it must find another
number than that of a second half. -/
def MayFollow (p : CodePoint) (more : List Char) : Prop :=
  ∀ s, p = .surrogate s → isHighSurrogate s.unit = true →
    ∀ a b c d e rest, more = '\\' :: 'u' :: a :: b :: c :: d :: e :: rest →
      ∃ unit, codeUnit? a b c d = some unit ∧ isLowSurrogate unit = false

theorem not_isLowSurrogate_of_isHighSurrogate {unit : Nat} (h : isHighSurrogate unit = true) :
    isLowSurrogate unit = false := by
  simp only [isHighSurrogate, Bool.and_eq_true, decide_eq_true_iff] at h
  simp only [isLowSurrogate, Bool.and_eq_false_iff, decide_eq_false_iff_not]
  omega

/-- What `pointOfUnit` makes of either half of a pair is a surrogate. -/
theorem exists_pointOfUnit {unit : Nat}
    (h : isLowSurrogate unit = true ∨ isHighSurrogate unit = true) :
    ∃ s : Surrogate, pointOfUnit unit = .surrogate s ∧ s.unit = unit := by
  have hrange : 0xD800 ≤ unit ∧ unit ≤ 0xDFFF := by
    simp only [isHighSurrogate, isLowSurrogate, Bool.and_eq_true, decide_eq_true_iff] at h
    omega
  exact ⟨⟨unit, hrange⟩, dif_pos hrange, rfl⟩

/-- However a code point is written, it may follow one with which it makes no pair. Only an escape
by number could be mistaken, and it gives the code point away. -/
theorem mayFollow_of_spellsPoint {p q : CodePoint} (hpair : ¬ IsPair p q) {piece : List Char}
    (h : SpellsPoint q piece) (more : List Char) : MayFollow p (piece ++ more) := by
  -- only an escape by its number could be taken for the second half
  rintro s rfl hhigh a b c d e rest hmore
  cases h with
  | plain _ _ hbackslash => exact absurd (List.cons.inj hmore).1 hbackslash
  | letter hletter =>
    obtain ⟨-, hmore⟩ := List.cons.inj hmore
    obtain ⟨rfl, -⟩ := List.cons.inj hmore
    cases hletter
  | code hcode =>
    rename_i unit
    cases hmore
    refine ⟨unit, hcode, ?_⟩
    by_contra hlow
    rw [Bool.not_eq_false] at hlow
    obtain ⟨t, ht, rfl⟩ := exists_pointOfUnit (.inl hlow)
    rw [ht] at hpair
    exact hpair ⟨hhigh, hlow⟩
  | pair ha hfirst =>
    cases hmore
    exact ⟨_, ha, not_isLowSurrogate_of_isHighSurrogate hfirst⟩

/-- **`readStringFor` reads a code point however it is written**, and goes on behind it with one
step less of its fuel. -/
theorem readStringFor_of_spellsPoint {p : CodePoint} {piece : List Char} (h : SpellsPoint p piece)
    (start : List Char) (fuel : Nat) (done : List CodePoint) {more : List Char} (hmore : more ≠ [])
    (hfollow : MayFollow p more) :
    readStringFor start (fuel + 1) done (piece ++ more) =
      readStringFor start fuel (p :: done) more := by
  obtain ⟨e, more, rfl⟩ := List.exists_cons_of_ne_nil hmore
  cases h with
  -- The conditions tell the equations of `readStringFor` apart.
  | plain hprintable hquote hbackslash =>
    rw [List.singleton_append, readStringFor]
    · exact if_neg (Nat.not_le.mpr hprintable)
    · exact hquote
    · exact fun h => absurd h hbackslash
    · exact fun _ h => absurd h hbackslash
    · exact fun _ _ h => absurd h hbackslash
  | letter hletter =>
    rename_i letter
    have hnumber : letter ≠ 'u' := by
      rintro rfl
      cases hletter
    rw [List.cons_append, List.singleton_append, readStringFor, hletter]
    · exact hnumber
  | code hcode =>
    rename_i unit
    have hread : ∀ a₁ a₂ a₃ a₄, codeUnit? a₁ a₂ a₃ a₄ = some unit →
        readCodeEscape ('u' :: a₁ :: a₂ :: a₃ :: a₄ :: e :: more) =
          .ok (pointOfUnit unit, e :: more) := by
      intro a₁ a₂ a₃ a₄ hcode
      rw [readCodeEscape, hcode]
      dsimp only
      split
      -- Only after a first half does the reader look at what follows.
      · rename_i hhigh
        obtain ⟨s, hs, rfl⟩ := exists_pointOfUnit (.inr hhigh)
        split
        · rename_i hmore
          obtain ⟨second, hsecond, hlow⟩ := hfollow s hs hhigh _ _ _ _ _ _ hmore
          rw [hsecond]
          dsimp only
          rw [hlow, if_neg Bool.false_ne_true]
        · rfl
      · rfl
    simp only [List.cons_append, List.nil_append]
    rw [readStringFor, hread _ _ _ _ hcode]
  | pair ha hhigh hb hlow hnumber =>
    simp only [List.cons_append, List.nil_append]
    rw [readStringFor, readCodeEscape, ha]
    simp only [hhigh, if_true, hb, hlow, ← hnumber, Char.ofNat_toNat]

/-- Code points in a row are read one by one, up to the quotation mark: those that are `done` are
kept in reverse, and `AnyText.ofPoints` makes the text of all of them. -/
theorem readStringFor_of_forall₂ {points : List CodePoint} {pieces : List (List Char)}
    (h : List.Forall₂ SpellsPoint points pieces) (hpairs : Unpaired points) (start : List Char)
    {fuel : Nat} (hfuel : points.length < fuel) (done : List CodePoint) (rest : List Char) :
    readStringFor start fuel done (pieces.flatten ++ '"' :: rest) =
      .ok (.ofPoints (done.reverse ++ points), rest) := by
  induction h generalizing fuel done with
  | nil =>
    cases fuel with
    | zero => exact absurd hfuel (Nat.not_lt_zero _)
    | succ fuel => rw [List.append_nil]; rfl
  | cons hpiece hpieces ih =>
    rename_i p piece points pieces
    cases fuel with
    | zero => exact absurd hfuel (Nat.not_lt_zero _)
    | succ fuel =>
      -- What follows is the quotation mark, or the next code point, which makes no pair with this
      -- one.
      have hfollow : MayFollow p (pieces.flatten ++ '"' :: rest) := by
        cases hpieces with
        | nil => rintro _ - - _ _ _ _ _ _ ⟨⟩
        | cons hnext _ =>
          rw [List.flatten_cons, List.append_assoc]
          exact mayFollow_of_spellsPoint (List.isChain_cons_cons.mp hpairs).1 hnext _
      rw [List.flatten_cons, List.append_assoc,
        readStringFor_of_spellsPoint hpiece _ _ _
          (List.append_ne_nil_of_right_ne_nil _ (List.cons_ne_nil _ _)) hfollow,
        ih hpairs.tail (Nat.lt_of_succ_lt_succ hfuel), List.reverse_cons, List.append_assoc,
        List.singleton_append]

/-- A code point takes one place at least. -/
theorem length_pos_of_spellsPoint {p : CodePoint} {piece : List Char} (h : SpellsPoint p piece) :
    0 < piece.length := by
  cases h <;> exact Nat.succ_pos _

/-- So the fuel of `readString`, which is the length of what remains, is enough. -/
theorem length_le_of_forall₂ {points : List CodePoint} {pieces : List (List Char)}
    (h : List.Forall₂ SpellsPoint points pieces) : points.length ≤ pieces.flatten.length := by
  induction h with
  | nil => exact Nat.le_refl _
  | cons hpiece _ ih =>
    have hpos := length_pos_of_spellsPoint hpiece
    rw [List.length_cons, List.flatten_cons, List.length_append]
    omega

/-- **A text is read however it is written**, be surrogates in it or not. The characters of the text
are read one after the other, as `SpellsText` spells them. -/
theorem readString_of_spellsText {t : AnyText} {written : List Char} (h : SpellsText t written)
    (rest : List Char) :
    ∃ body, written ++ rest = '"' :: body ∧ readString body = .ok (t, rest) := by
  obtain ⟨hpairs, pieces, hpieces, rfl⟩ := h
  refine ⟨pieces.flatten ++ '"' :: rest, by simp, ?_⟩
  have hfuel : t.points.length < (pieces.flatten ++ '"' :: rest).length + 1 := by
    have hlength := length_le_of_forall₂ hpieces
    rw [List.length_append]
    omega
  rw [readString, readStringFor_of_forall₂ hpieces hpairs _ hfuel, List.reverse_nil,
    List.nil_append, AnyText.ofPoints_points]

/-! ## Records -/

/-- How a text or an integer may be written. An integer has one spelling only; records hold no other
numbers. -/
inductive SpellsDetail : Value → List Char → Prop
  | text {t : AnyText} {written : List Char} (h : SpellsText t written) :
    SpellsDetail (.ofText t) written
  | int (i : Int) : SpellsDetail (.int i) (toString i).toList

/-- What may stand between two tokens of a line. -/
def IsGap (gap : List Char) : Prop :=
  ∀ c ∈ gap, c = ' ' ∨ c = '\t'

/-- How an entry may be written, up to what ends it: the key, the value, and the gaps around the
colon and after the value. -/
structure SpellsEntry (key : String) (v : Value) (name before between detail after : List Char) :
    Prop where
  name : SpellsText key name
  detail : SpellsDetail v detail
  before : IsGap before
  between : IsGap between
  after : IsGap after

/-- How the entries of a record may be written, from the first one to the end of the record. Each of
them is a `SpellsEntry`, and a comma or the bracket follows it. -/
inductive SpellsEntries : List (String × Value) → List Char → Prop
  /-- The last entry, with the bracket that ends the record. -/
  | last {key : String} {v : Value} {name before between detail after : List Char}
    (h : SpellsEntry key v name before between detail after) :
    SpellsEntries [(key, v)] (name ++ before ++ ':' :: (between ++ detail ++ after ++ ['\x7d']))
  /-- An entry, a comma and a gap before the next entry. -/
  | cons {key : String} {v : Value} {name before between detail after gap rest : List Char}
    {entries : List (String × Value)} (h : SpellsEntry key v name before between detail after)
    (hgap : IsGap gap) (hrest : SpellsEntries entries rest) :
    SpellsEntries ((key, v) :: entries)
      (name ++ before ++ ':' :: (between ++ detail ++ after ++ ',' :: (gap ++ rest)))

/-- How a record may be written on a line, between braces. -/
def SpellsRecord (entries : List (String × Value)) (line : List Char) : Prop :=
  ∃ gap rest, IsGap gap ∧ SpellsEntries entries rest ∧ line = '\x7b' :: (gap ++ rest)

/-! ## The printer's spelling -/

/-- One more digit to base 16 in `Text.hexPadded`. -/
theorem hexPadded_succ {width : Nat} (hwidth : 0 < width) (n : Nat) :
    Text.hexPadded (width + 1) n = Text.hexPadded width (n / 16) ++ [(n % 16).digitChar] := by
  obtain ⟨width, rfl⟩ := Nat.exists_eq_add_one_of_ne_zero hwidth.ne'
  rw [Text.hexPadded, Text.hexPadded]
  by_cases hsmall : n < 16
  · have hdigits : Nat.toDigits 16 n = [n.digitChar] := by
      rw [Nat.toDigits_eq_if (by decide), if_pos hsmall]
    rw [hdigits, Nat.div_eq_of_lt hsmall, Nat.mod_eq_of_lt hsmall]
    exact congrArg (· ++ [n.digitChar]) List.replicate_succ'
  · rw [Nat.toDigits_eq_if (by decide), if_neg hsmall, List.length_append, List.length_singleton,
      Nat.add_sub_add_right, List.append_assoc]

/-- The four digits of `Text.hexPadded`, one by one. -/
theorem hexPadded_four {n : Nat} (h : n < 0x10000) :
    Text.hexPadded 4 n = [(n / 16 / 16 / 16).digitChar, (n / 16 / 16 % 16).digitChar,
      (n / 16 % 16).digitChar, (n % 16).digitChar] := by
  have hone : Text.hexPadded 1 (n / 16 / 16 / 16) = [(n / 16 / 16 / 16).digitChar] := by
    rw [Text.hexPadded, Nat.toDigits_eq_if (by decide), if_pos (by omega)]
    rfl
  rw [hexPadded_succ (by decide), hexPadded_succ (by decide), hexPadded_succ (by decide), hone]
  rfl

/-- A number that is written with `Text.hexPadded` is read with `codeUnit?`. -/
theorem codeUnit?_digitChar {n : Nat} (h : n < 0x10000) :
    codeUnit? (n / 16 / 16 / 16).digitChar (n / 16 / 16 % 16).digitChar (n / 16 % 16).digitChar
      (n % 16).digitChar = some n := by
  have hdigit : ∀ d < 16, hexDigit? d.digitChar = some d := by decide
  rw [codeUnit?, hdigit _ (by omega), hdigit _ (by omega), hdigit _ (by omega),
    hdigit _ (by omega)]
  change some _ = some n
  congr 1
  omega

/-- A code point below 65536 may be escaped by its number. -/
theorem spellsPoint_hexPadded {n : Nat} (h : n < 0x10000) :
    SpellsPoint (pointOfUnit n) (['\\', 'u'] ++ Text.hexPadded 4 n) := by
  rw [hexPadded_four h]
  exact .code (codeUnit?_digitChar h)

theorem pointOfUnit_toNat (c : Char) : pointOfUnit c.toNat = .char c := by
  have hvalid : c.toNat < 0xD800 ∨ 0xDFFF < c.toNat ∧ c.toNat < 0x110000 := c.valid
  rw [pointOfUnit, dif_neg (by omega), Char.ofNat_toNat]

theorem pointOfUnit_surrogate (s : Surrogate) : pointOfUnit s.unit = .surrogate s :=
  dif_pos s.inRange

/-- What the printer makes of a character is a spelling of it, in each of the five cases of
`escapeChar`. -/
theorem spellsPoint_escapeChar (c : Char) : SpellsPoint (.char c) (escapeChar c) := by
  rw [escapeChar]
  split
  · rename_i h
    obtain rfl | rfl : c = '"' ∨ c = '\\' := by simpa using h
    · exact .letter rfl
    · exact .letter rfl
  · rename_i hplain
    split
    · rename_i h
      obtain rfl := eq_of_beq h
      exact .letter rfl
    · split
      · rename_i h
        obtain rfl := eq_of_beq h
        exact .letter rfl
      · split
        · rename_i h
          obtain rfl := eq_of_beq h
          exact .letter rfl
        · split
          · rename_i h
            rw [← pointOfUnit_toNat]
            -- what cannot be printed is escaped by its number, which has four digits
            exact spellsPoint_hexPadded (Nat.lt_of_le_of_lt h (by decide))
          · rename_i h
            simp only [Bool.or_eq_true, beq_iff_eq, not_or] at hplain
            exact .plain (Nat.lt_of_not_le h) hplain.1 hplain.2

theorem spellsPoint_escapePoint (p : CodePoint) : SpellsPoint p (escapePoint p) := by
  cases p with
  | char c => exact spellsPoint_escapeChar c
  | surrogate s =>
    have h := spellsPoint_hexPadded (Nat.lt_of_le_of_lt s.inRange.2 (by decide : 0xDFFF < 0x10000))
    rwa [pointOfUnit_surrogate s] at h

/-- What `printText` writes is a spelling, of a text that has no pairs. -/
theorem spellsText_printText {t : AnyText} (h : Unpaired t.points) :
    SpellsText t (printText t) := by
  refine ⟨h, t.points.map escapePoint, ?_, ?_⟩
  · rw [List.forall₂_map_right_iff, List.forall₂_same]
    exact fun p _ => spellsPoint_escapePoint p
  · rw [printText, List.flatMap_def]

theorem printText_whole (s : String) : printText s = printString s := by
  rw [printText, printString, AnyText.points, List.flatMap_map]
  rfl

/-- May a value be spelled: is it a text without pairs or an integer? -/
def IsDetail (v : Value) : Prop :=
  (∃ t, v = .ofText t ∧ Unpaired t.points) ∨ ∃ i, v = .int i

/-- What `Json.print` makes of a detail is a spelling of it. -/
theorem spellsDetail_print {v : Value} (h : IsDetail v) : SpellsDetail v (print v) := by
  obtain ⟨t, rfl, ht⟩ | ⟨i, rfl⟩ := h
  · have hprint : print (.ofText t) = printText t := by
      cases t with
      | whole s => rw [Value.ofText, print, printText_whole]
      | broken t => rw [Value.ofText, print]
    rw [hprint]
    exact .text (spellsText_printText ht)
  · rw [print]
    exact .int i

/-- The printer's spelling of a key. -/
theorem spellsText_printString (s : String) : SpellsText s (printString s) := by
  rw [← printText_whole]
  exact spellsText_printText (unpaired_whole s)

theorem spellsEntry_print (key : String) {v : Value} (h : IsDetail v) :
    SpellsEntry key v (printString key) [] [' '] (print v) [] :=
  ⟨spellsText_printString key, spellsDetail_print h, fun _ h => absurd h List.not_mem_nil,
    fun _ h => .inl (List.mem_singleton.mp h), fun _ h => absurd h List.not_mem_nil⟩

/-- What `printEntries` writes spells the entries, with a space after each comma and each colon, by
induction on those that follow. -/
theorem spellsEntries_print (key : String) {v : Value} {entries : List (String × Value)}
    (h : ∀ e ∈ (key, v) :: entries, IsDetail e.2) :
    SpellsEntries ((key, v) :: entries)
      (printString key ++ [':', ' '] ++ print v ++ printEntries entries) := by
  induction entries generalizing key v with
  | nil =>
    have hlast := SpellsEntries.last (spellsEntry_print key (h _ List.mem_cons_self))
    simpa [printEntries] using hlast
  | cons e entries ih =>
    obtain ⟨key', v'⟩ := e
    have hmore := ih key' (fun e he => h e (List.mem_cons_of_mem _ he))
    have hspace : IsGap [' '] := fun _ h => .inl (List.mem_singleton.mp h)
    have hcons := SpellsEntries.cons (spellsEntry_print key (h _ List.mem_cons_self)) hspace hmore
    simpa [printEntries] using hcons

/-- **What the printer writes is a spelling**, for records of texts and integers. -/
theorem spellsRecord_print {entries : List (String × Value)} (hne : entries ≠ [])
    (h : ∀ e ∈ entries, IsDetail e.2) : SpellsRecord entries (print (.object entries)) := by
  obtain ⟨⟨key, v⟩, entries, rfl⟩ := List.exists_cons_of_ne_nil hne
  refine ⟨[], _, fun _ h => absurd h List.not_mem_nil, spellsEntries_print key h, ?_⟩
  rw [print, List.nil_append]

/-! ## Reading records -/

/-- `skipBlanks` skips a gap and stops at what is no blank. -/
theorem skipBlanks_append {gap : List Char} (h : IsGap gap) {c : Char} (hc : isBlank c = false)
    (rest : List Char) : skipBlanks (gap ++ c :: rest) = c :: rest := by
  have hblank : ∀ d ∈ gap, isBlank d = true := by
    intro d hd
    obtain rfl | rfl := h d hd <;> decide
  rw [skipBlanks, List.dropWhile_append_of_pos hblank,
    List.dropWhile_cons_of_neg (by rw [hc]; decide)]

theorem ne_of_isAsciiDigit {c d : Char} (hc : Text.isAsciiDigit c = false)
    (hd : Text.isAsciiDigit d = true) : c ≠ d := by
  rintro rfl
  cases hc.symm.trans hd

/-- A numeral is not mistaken for a word. -/
theorem words_find?_of_digit {d : Char} (hd : Text.isAsciiDigit d = true) (more : List Char) :
    words.find? (·.1.isPrefixOf (d :: more)) = none ∧
      words.find? (·.1.isPrefixOf ('-' :: d :: more)) = none := by
  have hn : 'n' ≠ d := ne_of_isAsciiDigit (by decide) hd
  have ht : 't' ≠ d := ne_of_isAsciiDigit (by decide) hd
  have hf : 'f' ≠ d := ne_of_isAsciiDigit (by decide) hd
  have hN : 'N' ≠ d := ne_of_isAsciiDigit (by decide) hd
  have hI : 'I' ≠ d := ne_of_isAsciiDigit (by decide) hd
  have hminus : '-' ≠ d := ne_of_isAsciiDigit (by decide) hd
  constructor <;> simp [words, List.isPrefixOf, hn, ht, hf, hN, hI, hminus]

/-- An integer begins with a digit, or with a minus sign and a digit. -/
theorem exists_digit_toString (i : Int) :
    ∃ d more, Text.isAsciiDigit d = true ∧
      ((toString i).toList = d :: more ∨ (toString i).toList = '-' :: d :: more) := by
  obtain ⟨d, more, hdigits⟩ :=
    List.exists_cons_of_ne_nil (Nat.toDigits_ne_nil (n := i.natAbs) (b := 10))
  refine ⟨d, more, isAsciiDigit_toDigits i.natAbs d (hdigits ▸ List.mem_cons_self), ?_⟩
  rw [toList_toString, hdigits]
  split
  · exact .inr rfl
  · exact .inl rfl

/-- Is the integer short enough to be read, if it is one? -/
def IsShort (limits : Limits) (v : Value) : Prop :=
  ∀ i, v = .int i → i.natAbs < Number.tenTo limits.digits

section Reading

variable {limits : Limits} {rest : List Char}

/-- **A text and an integer are read back** by `readValueFor`, which tells by the first character
what is to be read. Of an integer this is a digit or the minus sign, and neither begins one of the
`words`. -/
theorem readValueFor_of_spellsDetail {v : Value} {written : List Char} (h : SpellsDetail v written)
    (hshort : IsShort limits v) (hdigits : 0 < limits.digits) (hrest : EndsNumeral rest)
    (fuel depth : Nat) :
    readValueFor limits (fuel + 1) depth (written ++ rest) = .ok (v, rest) := by
  cases h with
  | text hstring =>
    obtain ⟨body, hbody, hread⟩ := readString_of_spellsText hstring rest
    rw [hbody, readValueFor, hread]
  | int i =>
    have hnumber := readNumber_toString (hshort i rfl) hdigits hrest
    obtain ⟨d, more, hd, hwritten⟩ := exists_digit_toString i
    obtain ⟨hword, hminusWord⟩ := words_find?_of_digit hd (more ++ rest)
    rw [← hnumber]
    obtain hwritten | hwritten := hwritten
    -- a digit begins neither a string nor a list, an object or a word
    · have hquote : d ≠ '"' := (ne_of_isAsciiDigit (by decide) hd).symm
      have hlist : d ≠ '[' := (ne_of_isAsciiDigit (by decide) hd).symm
      have hobject : d ≠ '\x7b' := (ne_of_isAsciiDigit (by decide) hd).symm
      rw [hwritten, List.cons_append, readValueFor, readScalar, hword]
      · exact fun _ h => hquote (List.cons.inj h).1
      · exact fun _ h => hlist (List.cons.inj h).1
      · exact fun _ h => hobject (List.cons.inj h).1
    · rw [hwritten, List.cons_append, List.cons_append, readValueFor, readScalar, hminusWord]
      all_goals rintro _ ⟨⟩

/-- What is written begins with no blank, so that the gap before it ends there. -/
theorem head_of_spellsDetail {v : Value} {written : List Char} (h : SpellsDetail v written) :
    ∃ c more, written = c :: more ∧ isBlank c = false := by
  cases h with
  | text htext =>
    obtain ⟨-, pieces, -, rfl⟩ := htext
    exact ⟨_, _, rfl, by decide⟩
  | int i =>
    obtain ⟨d, more, hd, hwritten | hwritten⟩ := exists_digit_toString i
    · refine ⟨d, more, hwritten, ?_⟩
      simp only [isBlank, Bool.or_eq_false_iff, beq_eq_false_iff_ne]
      refine ⟨⟨⟨?_, ?_⟩, ?_⟩, ?_⟩ <;> exact (ne_of_isAsciiDigit (by decide) hd).symm
    · exact ⟨'-', d :: more, hwritten, by decide⟩

/-- What follows the value of an entry ends a numeral. -/
theorem endsNumeral_append {gap : List Char} (h : IsGap gap) {c : Char}
    (hc : c = ',' ∨ c = '\x7d') (rest : List Char) : EndsNumeral (gap ++ c :: rest) := by
  have hends : ∀ e, e = ' ' ∨ e = '\t' ∨ e = ',' ∨ e = '\x7d' →
      Text.isAsciiDigit e = false ∧ e ≠ '.' ∧ e ≠ 'e' ∧ e ≠ 'E' := by
    rintro _ (rfl | rfl | rfl | rfl) <;> decide
  intro e he
  cases gap with
  | nil =>
    cases he
    exact hends c (.inr (.inr hc))
  | cons d gap =>
    cases he
    exact hends e ((h e List.mem_cons_self).imp_right .inl)

/-- Reading an entry, up to what ends it: after a comma `readEntriesFor` goes on, and after a brace
it has the object. -/
theorem readEntriesFor_of_spellsEntry {key : String} {v : Value}
    {name before between detail after : List Char}
    (h : SpellsEntry key v name before between detail after) (hshort : IsShort limits v)
    (hdigits : 0 < limits.digits) (fuel depth : Nat) (done : List (AnyText × Value)) {c : Char}
    (hc : c = ',' ∨ c = '\x7d') (rest : List Char) :
    readEntriesFor limits (fuel + 2) depth done
        (name ++ before ++ ':' :: (between ++ detail ++ after ++ c :: rest)) =
      if c = ',' then readEntriesFor limits (fuel + 1) depth (putEntry done key v) (skipBlanks rest)
      else .ok (.ofEntries (putEntry done key v), rest) := by
  obtain ⟨body, hbody, hread⟩ := readString_of_spellsText h.name
    (before ++ ':' :: (between ++ detail ++ after ++ c :: rest))
  obtain ⟨d, more, hdetail, hd⟩ := head_of_spellsDetail h.detail
  have hblank : isBlank c = false := by
    obtain rfl | rfl := hc <;> decide
  -- blanks are skipped up to the value, which does not begin with one
  have hskip : skipBlanks (between ++ detail ++ after ++ c :: rest) =
      detail ++ (after ++ c :: rest) := by
    rw [hdetail, List.append_assoc, List.append_assoc, List.cons_append,
      skipBlanks_append h.between hd]
  have hvalue := readValueFor_of_spellsDetail h.detail hshort hdigits
    (endsNumeral_append h.after hc rest) fuel depth
  rw [List.append_assoc, hbody, readEntriesFor, hread]
  have hcolon : isBlank ':' = false := by decide
  simp only [skipBlanks_append h.before hcolon, hskip, hvalue, skipBlanks_append h.after hblank]
  obtain rfl | rfl := hc
  · rfl
  · rfl

/-- Entries begin with the quotation mark of a key, so that the gap before them ends there. -/
theorem SpellsEntries.exists_cons {entries : List (String × Value)} {written : List Char}
    (h : SpellsEntries entries written) : ∃ more, written = '"' :: more := by
  have hname : ∀ {key : String} {name : List Char}, SpellsText key name → ∀ more,
      ∃ more', name ++ more = '"' :: more' := by
    rintro key name ⟨-, pieces, -, rfl⟩ more
    exact ⟨_, rfl⟩
  cases h with
  | last h | cons h =>
    rw [List.append_assoc]
    exact hname h.name _

/-- An entry takes one place at least. -/
theorem SpellsEntries.length_le {entries : List (String × Value)} {written : List Char}
    (h : SpellsEntries entries written) : entries.length ≤ written.length := by
  induction h with
  | last =>
    simp only [List.length_cons, List.length_append, List.length_nil]
    omega
  | cons _ _ _ ih =>
    simp only [List.length_cons, List.length_append]
    omega

/-- Entries as the reader keeps them, where any text may be a key. -/
def keyed (entries : List (String × Value)) : List (AnyText × Value) :=
  entries.map fun e => (.whole e.1, e.2)

theorem ofEntries_keyed (entries : List (String × Value)) :
    Value.ofEntries (keyed entries) = .object entries := by
  have hfields : Value.wholeFields (keyed entries) = entries := by
    rw [Value.wholeFields, keyed, List.filterMap_map]
    exact List.filterMap_some
  rw [Value.ofEntries, hfields, if_pos]
  rw [keyed, List.all_map]
  exact List.all_eq_true.mpr fun _ _ => rfl

/-- A new key comes last. -/
theorem putEntry_keyed {entries : List (String × Value)} {key : String} (v : Value)
    (h : key ∉ entries.map Prod.fst) :
    putEntry (keyed entries) key v = keyed (entries ++ [(key, v)]) := by
  rw [putEntry, if_neg, keyed, keyed, List.map_append]
  · rfl
  · rw [keyed, List.any_map, List.any_eq_true]
    rintro ⟨e, he, hkey⟩
    exact h (List.mem_map.mpr ⟨e, he, AnyText.whole.inj (eq_of_beq hkey)⟩)

theorem notMem_of_nodup {done more : List (String × Value)} {key : String} {v : Value}
    (h : ((done ++ (key, v) :: more).map Prod.fst).Nodup) : key ∉ done.map Prod.fst := by
  intro hmem
  rw [List.map_append, List.map_cons] at h
  exact (List.nodup_append.mp h).2.2 key hmem key List.mem_cons_self rfl

/-- **Entries are read back**, as long as no key comes twice: by induction on how they are written,
with those that are `done` left open. -/
theorem readEntriesFor_of_spellsEntries {entries : List (String × Value)} {written : List Char}
    (h : SpellsEntries entries written) (hshort : ∀ e ∈ entries, IsShort limits e.2)
    (hdigits : 0 < limits.digits) {fuel : Nat} (hfuel : entries.length < fuel) (depth : Nat)
    {done : List (String × Value)} (hkeys : ((done ++ entries).map Prod.fst).Nodup)
    (rest : List Char) :
    readEntriesFor limits fuel depth (keyed done) (written ++ rest) =
      .ok (.object (done ++ entries), rest) := by
  induction h generalizing fuel done with
  | last h =>
    obtain ⟨fuel, rfl⟩ : ∃ n, fuel = n + 2 := Nat.exists_eq_add_of_le' hfuel
    have hread := readEntriesFor_of_spellsEntry h (hshort _ List.mem_cons_self) hdigits fuel depth
      (keyed done) (.inr rfl) rest
    rw [if_neg (by decide), putEntry_keyed _ (notMem_of_nodup hkeys), ofEntries_keyed] at hread
    rw [← hread]
    simp only [List.append_assoc, List.cons_append, List.nil_append]
  -- After the comma and the gap the next entry begins, and the induction hypothesis takes over with
  -- one entry more that is done.
  | cons h hgap hrest ih =>
    rename_i key v _ _ _ _ _ gap more entries
    obtain ⟨fuel, rfl⟩ : ∃ n, fuel = n + 2 := Nat.exists_eq_add_of_le' (by
      rw [List.length_cons] at hfuel
      omega)
    obtain ⟨first, hfirst⟩ := hrest.exists_cons
    have hread := readEntriesFor_of_spellsEntry h (hshort _ List.mem_cons_self) hdigits fuel depth
      (keyed done) (.inl rfl) (gap ++ more ++ rest)
    have hskip : skipBlanks (gap ++ more ++ rest) = more ++ rest := by
      rw [hfirst, List.append_assoc, List.cons_append, skipBlanks_append hgap (by decide)]
    have hkeys' : ((done ++ [(key, v)] ++ entries).map Prod.fst).Nodup := by
      rwa [List.append_assoc, List.singleton_append]
    have hmore := ih (fun e he => hshort e (List.mem_cons_of_mem _ he))
      (Nat.lt_of_succ_lt_succ hfuel) hkeys'
    rw [if_pos rfl, putEntry_keyed _ (notMem_of_nodup hkeys), hskip, hmore,
      List.append_assoc done, List.singleton_append] at hread
    rw [← hread]
    simp only [List.append_assoc, List.cons_append]

/-- **A record is read back however it is written on a line.** The integers have to be within the
limit of reading (`IsShort`). -/
theorem read_of_spellsRecord {entries : List (String × Value)} {line : List Char}
    (h : SpellsRecord entries line) (hshort : ∀ e ∈ entries, IsShort limits e.2)
    (hdigits : 0 < limits.digits) (hnesting : 0 < limits.nesting)
    (hkeys : (entries.map Prod.fst).Nodup) : read limits line = .ok (.object entries) := by
  obtain ⟨gap, written, hgap, hentries, rfl⟩ := h
  obtain ⟨first, hfirst⟩ := hentries.exists_cons
  have hlength := hentries.length_le
  have hskip : skipBlanks (gap ++ written) = written := by
    rw [hfirst, skipBlanks_append hgap (by decide)]
  -- The fuel is measured by characters, and every entry takes some.
  have hfuel : entries.length < 2 * (gap ++ written).length + 3 := by
    rw [List.length_append]
    omega
  have hread : readEntriesFor limits (2 * (gap ++ written).length + 3) (limits.nesting - 1) []
      written = .ok (.object entries, []) := by
    have hkeys' : (([] ++ entries).map Prod.fst).Nodup := hkeys
    have hentries' := readEntriesFor_of_spellsEntries hentries hshort hdigits hfuel
      (limits.nesting - 1) hkeys' []
    rwa [List.append_nil] at hentries'
  have hvalue : readValueFor limits (2 * ('\x7b' :: (gap ++ written)).length + 2) limits.nesting
      (skipBlanks ('\x7b' :: (gap ++ written))) = .ok (.object entries, []) := by
    have hopening : skipBlanks ('\x7b' :: (gap ++ written)) = '\x7b' :: (gap ++ written) :=
      List.dropWhile_cons_of_neg (by decide)
    rw [hopening, readValueFor, if_neg (Nat.pos_iff_ne_zero.mp hnesting), hskip, ← hread,
      hfirst]
    rfl
  rw [read, readText, hvalue]
  · rfl
  · rintro _ ⟨⟩

end Reading

/-! ## One line -/

open Text (IsUnbroken isUnbroken_append isUnbroken_cons isUnbroken_nil)

/-- Nothing but the two characters of the line ends breaks a line. -/
theorem isUnbroken_of_forall {chars : List Char} (h : ∀ c ∈ chars, c ≠ '\n' ∧ c ≠ '\r') :
    IsUnbroken chars :=
  ⟨fun hmem => (h _ hmem).1 rfl, fun hmem => (h _ hmem).2 rfl⟩

theorem isUnbroken_of_isGap {gap : List Char} (h : IsGap gap) : IsUnbroken gap := by
  refine isUnbroken_of_forall fun c hc => ?_
  obtain rfl | rfl := h c hc <;> decide

/-- No line ends within an escape. -/
theorem isUnbroken_of_codeUnit? {a₁ a₂ a₃ a₄ : Char} {unit : Nat}
    (h : codeUnit? a₁ a₂ a₃ a₄ = some unit) : IsUnbroken [a₁, a₂, a₃, a₄] := by
  have hdigit : ∀ {c : Char} {n : Nat}, hexDigit? c = some n → c ≠ '\n' ∧ c ≠ '\r' := by
    intro c n hc
    constructor
    all_goals
      rintro rfl
      cases hc
  simp only [codeUnit?, Option.bind_eq_bind, Option.bind_eq_some_iff] at h
  obtain ⟨n₁, h₁, n₂, h₂, n₃, h₃, n₄, h₄, -⟩ := h
  refine isUnbroken_of_forall ?_
  simp only [List.forall_mem_cons]
  exact ⟨hdigit h₁, hdigit h₂, hdigit h₃, hdigit h₄, by simp⟩

/-- No spelling of a code point breaks a line: the two characters that would are written by a letter
or by their numbers. -/
theorem isUnbroken_of_spellsPoint {p : CodePoint} {piece : List Char} (h : SpellsPoint p piece) :
    IsUnbroken piece := by
  have hescape : IsUnbroken ['\\', 'u'] := by decide
  cases h with
  | plain hprintable =>
    -- what is printed as it is is no control character, and so no line end
    refine isUnbroken_of_forall fun d hd => ?_
    obtain rfl := List.mem_singleton.mp hd
    constructor
    all_goals
      rintro rfl
      revert hprintable
      decide
  | letter hletter =>
    refine isUnbroken_cons.mpr ⟨by decide, by decide, isUnbroken_of_forall fun d hd => ?_⟩
    obtain rfl := List.mem_singleton.mp hd
    constructor
    all_goals
      rintro rfl
      cases hletter
  | code hcode => exact isUnbroken_append.mpr ⟨hescape, isUnbroken_of_codeUnit? hcode⟩
  | pair ha _ hb =>
    have hfirst := isUnbroken_append.mpr ⟨hescape, isUnbroken_of_codeUnit? ha⟩
    have hsecond := isUnbroken_append.mpr ⟨hescape, isUnbroken_of_codeUnit? hb⟩
    exact isUnbroken_append.mpr ⟨hfirst, hsecond⟩

/-- So no text does, whatever it says. -/
theorem isUnbroken_of_spellsText {t : AnyText} {written : List Char} (h : SpellsText t written) :
    IsUnbroken written := by
  obtain ⟨-, pieces, hpieces, rfl⟩ := h
  have hquote : IsUnbroken ['"'] := by decide
  have hflat : IsUnbroken pieces.flatten := by
    generalize t.points = points at hpieces
    induction hpieces with
    | nil => exact isUnbroken_nil
    | cons hpiece _ ih =>
      rw [List.flatten_cons]
      exact isUnbroken_append.mpr ⟨isUnbroken_of_spellsPoint hpiece, ih⟩
  exact isUnbroken_append.mpr ⟨hquote, isUnbroken_append.mpr ⟨hflat, hquote⟩⟩

/-- The characters of an integer are those of numerals (`Number.isNumeral_toString`). -/
theorem isUnbroken_of_spellsDetail {v : Value} {written : List Char} (h : SpellsDetail v written) :
    IsUnbroken written := by
  cases h with
  | text htext => exact isUnbroken_of_spellsText htext
  | int i =>
    refine isUnbroken_of_forall fun c hc => ?_
    have hnumeral := Number.isNumeral_toString i c hc
    constructor
    all_goals
      rintro rfl
      cases hnumeral

theorem isUnbroken_of_spellsEntry {key : String} {v : Value}
    {name before between detail after more : List Char}
    (h : SpellsEntry key v name before between detail after) (hmore : IsUnbroken more) :
    IsUnbroken (name ++ before ++ ':' :: (between ++ detail ++ after ++ more)) := by
  simp only [isUnbroken_append, isUnbroken_cons]
  exact ⟨⟨isUnbroken_of_spellsText h.name, isUnbroken_of_isGap h.before⟩, by decide, by decide,
    ⟨⟨isUnbroken_of_isGap h.between, isUnbroken_of_spellsDetail h.detail⟩,
      isUnbroken_of_isGap h.after⟩, hmore⟩

/-- **A record is written on one line**, so that a file of records has as many lines. -/
theorem isUnbroken_of_spellsRecord {entries : List (String × Value)} {line : List Char}
    (h : SpellsRecord entries line) : IsUnbroken line := by
  obtain ⟨gap, written, hgap, hentries, rfl⟩ := h
  have hwritten : IsUnbroken written := by
    induction hentries with
    | last h => exact isUnbroken_of_spellsEntry h (by decide)
    | cons h hgap _ ih =>
      exact isUnbroken_of_spellsEntry h (isUnbroken_cons.mpr ⟨by decide, by decide,
        isUnbroken_append.mpr ⟨isUnbroken_of_isGap hgap, ih⟩⟩)
  exact isUnbroken_cons.mpr ⟨by decide, by decide,
    isUnbroken_append.mpr ⟨isUnbroken_of_isGap hgap, hwritten⟩⟩

/-- A record is written between braces, which are no blanks: trimming a line leaves it alone. -/
theorem exists_braces_of_spellsRecord {entries : List (String × Value)} {line : List Char}
    (h : SpellsRecord entries line) : ∃ middle, line = '\x7b' :: (middle ++ ['\x7d']) := by
  obtain ⟨gap, written, -, hentries, rfl⟩ := h
  obtain ⟨middle, rfl⟩ : ∃ middle, written = middle ++ ['\x7d'] := by
    induction hentries with
    | last =>
      rename_i name before between detail after _
      refine ⟨name ++ before ++ ':' :: (between ++ detail ++ after), ?_⟩
      simp only [List.append_assoc, List.cons_append]
    | cons _ _ _ ih =>
      rename_i name before between detail after gap _ _ _ _ _
      obtain ⟨middle, rfl⟩ := ih
      refine ⟨name ++ before ++ ':' :: (between ++ detail ++ after ++ ',' :: (gap ++ middle)), ?_⟩
      simp only [List.append_assoc, List.cons_append]
  exact ⟨gap ++ middle, by rw [List.append_assoc]⟩

end LoadLedger.Json
