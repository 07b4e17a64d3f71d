import LoadLedger.Number.Shortest
import Mathlib.Data.List.Basic

/-!
# Numerals

An integer is written with digits and a sign, a floating-point number with a point and an exponent
besides, or as one of the words for NaN and infinity. No other character occurs in either of them
(`Number.isNumeral_toString`, `Number.isNumeral_floatChars`).

`Number.IsNumeral` only asks for the characters. That is enough to tell numerals from names
(`eq_text_of_shown`), and to find their ends in a table (`Report.shows_rowLine`).
-/

namespace LoadLedger.Number

/-- May the character occur in a numeral? The letters are those of `e`, `nan` and `inf`. -/
def isNumeralChar (c : Char) : Bool :=
  c.isDigit || ['+', '-', '.', 'e', 'n', 'a', 'i', 'f'].contains c

/-- Are all characters of a text characters of numerals? -/
def IsNumeral (s : List Char) : Prop :=
  ∀ c ∈ s, isNumeralChar c = true

instance (s : List Char) : Decidable (IsNumeral s) :=
  decidable_of_iff (s.all isNumeralChar = true) List.all_eq_true

namespace IsNumeral

variable {s t : List Char}

theorem append (hs : IsNumeral s) (ht : IsNumeral t) : IsNumeral (s ++ t) :=
  List.forall_mem_append.mpr ⟨hs, ht⟩

theorem mono (ht : IsNumeral t) (h : s ⊆ t) : IsNumeral s :=
  fun c hc => ht c (h hc)

theorem replicate (n : Nat) {c : Char} (h : isNumeralChar c = true) :
    IsNumeral (List.replicate n c) := by
  intro d hd
  rw [List.eq_of_mem_replicate hd]
  exact h

theorem toDigits (n : Nat) : IsNumeral (Nat.toDigits 10 n) := by
  intro c hc
  have hdigit := Nat.isDigit_of_mem_toDigits (by decide) (by decide) hc
  rw [isNumeralChar, hdigit, Bool.true_or]

end IsNumeral

/-! ## Integers -/

/-- An integer is written as a numeral. -/
theorem isNumeral_toString (i : Int) : IsNumeral (toString i).toList := by
  rw [Int.toString_eq_repr, Int.repr_eq_if]
  split
  · rw [Nat.toList_repr]
    exact .toDigits _
  · rw [String.toList_append, Nat.toList_repr]
    exact .append (by decide) (.toDigits _)

/-! ## Floating-point numbers -/

/-- The shortest decimal has digits for its digits: `shortestFrom` tries one digit more each time,
and each try is an integer or a zero. -/
theorem isNumeral_shortestFrom (i : RoundingInterval) (magnitude : Int) (fuel count : Nat) :
    IsNumeral (shortestFrom i magnitude fuel count).digits := by
  induction fuel generalizing count with
  | zero => exact (by decide : IsNumeral ['0'])
  | succ fuel ih =>
    rw [shortestFrom]
    split
    · rename_i point _
      refine (IsNumeral.toDigits point).mono fun c hc => ?_
      have hkept := (List.dropWhile_sublist _).subset (List.mem_reverse.mp hc)
      exact List.mem_reverse.mp hkept
    · exact ih _

section Decimal

variable {d : Decimal} (h : IsNumeral d.digits)
include h

/-- Written with a point at its place, a decimal is a numeral; -/
theorem isNumeral_positional : IsNumeral d.positional := by
  have hzeros : ∀ n, IsNumeral (List.replicate n '0') := fun n => .replicate n (by decide)
  rw [Decimal.positional]
  split
  · exact .append (.append (by decide) (hzeros _)) h
  · split
    · exact .append (.append (h.mono (List.take_subset _ _)) (by decide))
        (h.mono (List.drop_subset _ _))
    · exact .append (.append h (hzeros _)) (by decide)

theorem isNumeral_scientific (exponentDigits : Nat) :
    IsNumeral (d.scientific exponentDigits) := by
  have hfraction :
      IsNumeral (if (d.digits.drop 1).isEmpty then [] else '.' :: d.digits.drop 1) := by
    split
    · exact (by decide : IsNumeral [])
    · exact .append (s := ['.']) (by decide) (h.mono (List.drop_subset _ _))
  have hmark : IsNumeral ['e', if d.point - 1 < 0 then '-' else '+'] := by
    split <;> decide
  exact .append (.append (.append (.append (h.mono (List.take_subset _ _)) hfraction) hmark)
    (.replicate _ (by decide))) (.toDigits _)

/-- A numeral is written in whichever of the two layouts `Decimal.layOut` takes. -/
theorem isNumeral_layOut (layout : Layout) : IsNumeral (d.layOut layout) := by
  rw [Decimal.layOut]
  split
  · exact isNumeral_positional h
  · exact isNumeral_scientific h _

end Decimal

/-- A floating-point number is written as a numeral, NaN and infinity included. -/
theorem isNumeral_floatChars (x : Float) : IsNumeral (floatChars x) := by
  rw [floatChars]
  split
  · decide
  · split <;> decide
  · rename_i negative mantissa exponent _
    have hmagnitude : IsNumeral (if mantissa = 0 then ['0', '.', '0']
        else (shortestDecimal mantissa exponent).layOut layout) := by
      split
      · decide
      · exact isNumeral_layOut (isNumeral_shortestFrom _ _ _ _) layout
    dsimp only
    split
    · exact .append (s := ['-']) (by decide) hmagnitude
    · exact hmagnitude

end LoadLedger.Number
