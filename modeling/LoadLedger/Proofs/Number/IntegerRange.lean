import LoadLedger.Value
import Mathlib.Data.List.Induction

/-!
# The range of integers

An integer can be written if it has at most `Number.digitLimit` digits. What a value stands for as
an integer always can, unless the value is an integer beyond the limit itself: a literal of more
digits is refused (`Number.natAbs_lt_of_readInteger`), and a floating-point number has some three
hundred digits at most (`Number.natAbs_truncate_lt`).

Both are needed where a status code is read: what has been read as one can be written in a message
(`Value.natAbs_toInteger_lt`).
-/

namespace LoadLedger

/-! ## Literals -/

/-- Every script has ten digits in a row, so that `Text.digit?` stays below ten. -/
theorem Text.digit?_lt {c : Char} {d : Nat} (h : Text.digit? c = some d) : d < 10 := by
  rw [Text.digit?, Option.map_eq_some_iff] at h
  obtain ⟨start, hstart, rfl⟩ := h
  have hblock := List.find?_some hstart
  simp only [Bool.and_eq_true, decide_eq_true_eq] at hblock
  omega

namespace Number

/-- A number has no more digits than it was put together from: `ofDigits` of n digits is less than
ten to the n. The induction is from the end of the list, where `ofDigits` appends. -/
theorem ofDigits_lt {digits : List Nat} (h : ∀ d ∈ digits, d < 10) :
    ofDigits digits < tenTo digits.length := by
  induction digits using List.reverseRecOn with
  | nil => exact Nat.one_pos
  | append_singleton digits d ih =>
    have hd : d < 10 := h d List.mem_concat_self
    have hrest := ih fun e he => h e (List.mem_append_left _ he)
    have hconcat : ofDigits (digits ++ [d]) = 10 * ofDigits digits + d := by
      rw [ofDigits, List.foldl_append, ofDigits]
      rfl
    have hlength : tenTo (digits ++ [d]).length = tenTo digits.length * 10 := by
      rw [List.length_append, List.length_singleton]
      rfl
    rw [hconcat, hlength]
    omega

/-- What `takeDigitsFrom` takes are digits, with underscores between them left out. -/
theorem takeDigitsFrom_lt (afterDigit : Bool) (s : List Char) :
    ∀ d ∈ (takeDigitsFrom afterDigit s).1, d < 10 := by
  fun_induction takeDigitsFrom afterDigit s with
  | case1 => exact fun d hd => absurd hd List.not_mem_nil
  | case2 afterDigit c rest d hdigit digits after htaken ih =>
    rw [htaken] at ih
    intro e he
    rcases List.mem_cons.mp he with rfl | hrest
    · exact Text.digit?_lt hdigit
    · exact ih e hrest
  | case3 _ _ _ _ _ ih => exact ih
  | case4 => exact fun d hd => absurd hd List.not_mem_nil

/-- `integerOf?` counts the digits before it puts the number together, and leading zeros count. -/
theorem natAbs_lt_of_integerOf? {s : List Char} {i : Int} (h : integerOf? s = some (.ok i)) :
    i.natAbs < tenTo digitLimit := by
  rw [integerOf?] at h
  dsimp only at h
  generalize takeSign (s.dropWhile Text.isNumeralBlank) = signed at h
  have hdigits := takeDigitsFrom_lt false signed.2
  split at h
  · cases h
  · split at h
    · cases h
    · rename_i hcount
      split at h
      -- what is not too long to be read has a value below that power of ten
      · have hlt := Nat.lt_of_lt_of_le (ofDigits_lt hdigits) (tenTo_le_tenTo (Nat.not_lt.mp hcount))
        cases h
        change (if signed.1 then -(ofDigits (takeDigits signed.2).1 : Int)
          else ofDigits (takeDigits signed.2).1).natAbs < _
        split
        · rw [Int.natAbs_neg, Int.natAbs_natCast]
          exact hlt
        · rw [Int.natAbs_natCast]
          exact hlt
      · cases h

/-- **A literal that is read can be written.** -/
theorem natAbs_lt_of_readInteger {s : String} {i : Int} (h : readInteger s = .ok i) :
    i.natAbs < tenTo digitLimit := by
  rw [readInteger] at h
  split at h
  · rename_i hread
    cases h
    exact natAbs_lt_of_integerOf? hread
  · cases h
  · cases h

/-- A literal that `readInteger` does not read is a bad value, whether it is no literal or too
long. -/
theorem family_of_readInteger {s : String} {cause : Fault} (h : readInteger s = .error cause) :
    cause.family = .badValue := by
  rw [readInteger] at h
  split at h
  · cases h
  · cases h
    rfl
  · cases h
    rfl

/-- A broken text is a bad value. -/
theorem family_integerRefusal (t : BrokenText) : (integerRefusal t).family = .badValue := by
  rw [integerRefusal]
  split <;> rfl

/-! ## Floating-point numbers -/

/-- The mantissa of a finite number has 53 bits, and its exponent is bounded: `partsOf` cuts both
out of 64 bits. -/
theorem bounds_of_partsOf {x : Float} {negative : Bool} {mantissa : Nat} {exponent : Int}
    (h : partsOf x = .finite negative mantissa exponent) :
    mantissa < twoTo 53 ∧ exponent ≤ 971 := by
  have h52 : twoTo 52 = 2 ^ 52 := rfl
  have h53 : twoTo 53 = 2 * 2 ^ 52 := rfl
  have hfraction : x.toBits.toNat % twoTo 52 < 2 ^ 52 := Nat.mod_lt _ (Nat.two_pow_pos 52)
  have hbiased : x.toBits.toNat / twoTo 52 % 2048 < 2048 := Nat.mod_lt _ (by decide)
  rw [partsOf] at h
  split at h
  · split at h
    · cases h
    · cases h
  · split at h
    · cases h
      exact ⟨by omega, by decide⟩
    · cases h
      constructor <;> omega

/-- **The integer part of a number can be written**: it is less than two to the 1024, which has some
three hundred digits. -/
theorem natAbs_truncate_lt {x : Float} {negative : Bool} {mantissa : Nat} {exponent : Int}
    (h : partsOf x = .finite negative mantissa exponent) :
    (truncate negative mantissa exponent).natAbs < tenTo digitLimit := by
  obtain ⟨hmantissa, hexponent⟩ := bounds_of_partsOf h
  have hshift : exponent.toNat ≤ 971 := by omega
  -- The one numerical fact: the greatest number is far below the limit.
  have hlimit : twoTo 53 * twoTo 971 ≤ tenTo digitLimit := by decide +kernel
  have hmagnitude : (Ratio.binary mantissa exponent).num / (Ratio.binary mantissa exponent).den <
      twoTo 53 * twoTo 971 := by
    rw [Ratio.binary]
    split
    · have hscale := twoTo_le_twoTo hshift
      rw [Nat.div_one]
      exact Nat.lt_of_lt_of_le (Nat.mul_lt_mul_of_pos_right hmantissa (twoTo_pos _))
        (Nat.mul_le_mul_left _ hscale)
    · refine Nat.lt_of_le_of_lt (Nat.div_le_self _ _) (Nat.lt_of_lt_of_le hmantissa ?_)
      exact Nat.le_mul_of_pos_right _ (twoTo_pos _)
  refine Nat.lt_of_lt_of_le ?_ hlimit
  rw [truncate]
  split
  · rw [Int.natAbs_neg, Int.natAbs_natCast]
    exact hmagnitude
  · rw [Int.natAbs_natCast]
    exact hmagnitude

end Number

end LoadLedger
