import LoadLedger.Proofs.Number.FloatRange

/-!
# Numbers above zero

The parts of a floating-point number are what comparisons look at (`Number.unpack_toModel`). So a
number that does not compare as zero or less is finite and greater than zero, or it is infinity, or
it is NaN, which compares as nothing at all (`Number.not_le_zero_iff`).
-/

namespace LoadLedger.Number

/-! ## The fields of a number -/

section Fields

open Float.Model Float.Model.UnpackedFloat

/-- The mantissa field, as `partsOf` cuts it out of the bits. -/
theorem toNat_unpackMantissa (b : BitVec Format.binary64.numBits) :
    (unpackMantissa b).toNat = b.toNat % 2 ^ 52 := by
  change (b.toNat >>> 0) % 2 ^ 52 = _
  rw [Nat.shiftRight_zero]

theorem toNat_unpackSign (b : BitVec Format.binary64.numBits) :
    (unpackSign b).toNat = b.toNat / 2 ^ 63 % 2 := by
  change (b.toNat >>> 63) % 2 ^ 1 = _
  rw [Nat.shiftRight_eq_div_pow]

/-- The sign of a number that is negated or not. -/
def signOf (negative : Bool) : Sign :=
  if negative then .negative else .positive

/-- A number that is put together from its parts. -/
def Parts.unpacked : Parts → UnpackedFloat
  | .nan => .notANumber
  | .infinite negative => .infinity (signOf negative)
  | .finite negative mantissa exponent =>
    if h : mantissa = 0 then .zero (signOf negative)
    else .finite (signOf negative) mantissa exponent (Nat.pos_of_ne_zero h)

/-- The sign that `partsOf` takes from the bits is the one that comparisons see. -/
theorem ofBitVec_unpackSign (b : BitVec Format.binary64.numBits) :
    Sign.ofBitVec (unpackSign b) = signOf (decide (twoTo 63 ≤ b.toNat)) := by
  have hlt : b.toNat < 2 ^ 64 := b.isLt
  have hsign := toNat_unpackSign b
  have hzero : unpackSign b = 0#1 ↔ ¬ 2 ^ 63 ≤ b.toNat := by
    rw [← BitVec.toNat_inj, hsign, BitVec.toNat_ofNat]
    omega
  by_cases h : 2 ^ 63 ≤ b.toNat
  · rw [Sign.ofBitVec, if_neg (hzero.not.mpr (not_not_intro h)), twoTo_eq, decide_eq_true h]
    rfl
  · rw [Sign.ofBitVec, if_pos (hzero.mpr h), twoTo_eq, decide_eq_false h]
    rfl

/-- **A number is what its parts say**: the unpacked number that comparisons work on is
`Parts.unpacked` of `partsOf`. Both take the three fields from the same bits, and they distinguish
the same four cases. -/
theorem unpack_toModel (x : Float) : x.toModel.unpack = (partsOf x).unpacked := by
  change UnpackedFloat.unpack .binary64 x.toModel.toBits.toBitVec = _
  have hnat : x.toBits.toNat = x.toModel.toBits.toBitVec.toNat := rfl
  rw [partsOf, hnat]
  obtain ⟨b, hb⟩ : ∃ b : BitVec Format.binary64.numBits, x.toModel.toBits.toBitVec = b := ⟨_, rfl⟩
  rw [hb]
  have hexponent := toNat_unpackExponent b
  have hmantissa := toNat_unpackMantissa b
  have hfull : unpackExponent b = -BitVec.ofNat Format.binary64.exponentBits 1 ↔
      b.toNat / 2 ^ 52 % 2048 = 2047 := by
    rw [← BitVec.toNat_inj, hexponent]
    rfl
  have hempty : unpackExponent b = BitVec.ofNat Format.binary64.exponentBits 0 ↔
      b.toNat / 2 ^ 52 % 2048 = 0 := by
    rw [← BitVec.toNat_inj, hexponent]
    rfl
  have hround : unpackMantissa b = BitVec.ofNat Format.binary64.mantissaBitsWithoutImplicit 0 ↔
      b.toNat % 2 ^ 52 = 0 := by
    rw [← BitVec.toNat_inj, hmantissa]
    rfl
  rw [UnpackedFloat.unpack, ofBitVec_unpackSign, twoTo_eq 52]
  dsimp only
  by_cases h₁ : b.toNat / 2 ^ 52 % 2048 = 2047
  · rw [if_pos (hfull.mpr h₁), if_pos h₁]
    by_cases h₂ : b.toNat % 2 ^ 52 = 0
    · rw [if_pos (hround.mpr h₂), if_pos h₂, Parts.unpacked]
    · rw [if_neg (hround.not.mpr h₂), if_neg h₂, Parts.unpacked]
  · rw [if_neg (hfull.not.mpr h₁), if_neg h₁]
    by_cases h₃ : b.toNat / 2 ^ 52 % 2048 = 0
    · rw [if_pos (hempty.mpr h₃), if_pos h₃, Parts.unpacked]
      have hleast : ((unpackExponent b).toNat : Int) - (Format.binary64.exponentBias +
          Format.binary64.mantissaBitsWithoutImplicit) + 1 = leastExponent := by
        rw [hexponent, h₃]
        rfl
      simp only [hround, hmantissa, hleast]
    · rw [if_neg (hempty.not.mpr h₃), if_neg h₃, Parts.unpacked, dif_neg (by omega)]
      have hbiased : ((unpackExponent b).toNat : Int) - (Format.binary64.exponentBias +
          Format.binary64.mantissaBitsWithoutImplicit) =
            ((b.toNat / 2 ^ 52 % 2048 : Nat) : Int) - 1075 := by
        rw [hexponent]
        rfl
      -- the implicit bit stands before the stored mantissa
      have himplicit : (1#1 ++ unpackMantissa b).toNat = 2 ^ 52 + b.toNat % 2 ^ 52 := by
        have hlt : (unpackMantissa b).toNat < 2 ^ 52 := (unpackMantissa b).isLt
        rw [← hmantissa, BitVec.toNat_append, ← Nat.shiftLeft_add_eq_or_of_lt hlt]
        rfl
      simp only [himplicit, hbiased]

end Fields

/-! ## Comparison with zero -/

/-- Is the number finite and greater than zero? These are the numbers that can be an interval. -/
def IsPositive (x : Float) : Prop :=
  ∃ mantissa exponent, 0 < mantissa ∧ partsOf x = .finite false mantissa exponent

/-- Whether a number compares as zero or less is seen from its parts (`unpack_toModel`). -/
theorem le_zero_iff (x : Float) :
    x ≤ 0.0 ↔ (partsOf x).unpacked.le (.zero .positive) = true := by
  have hzero : (0.0 : Float).toModel.unpack = .zero .positive := by
    rw [unpack_toModel]
    have hparts : partsOf 0.0 = .finite false 0 leastExponent := by decide +kernel
    rw [hparts]
    rfl
  rw [← unpack_toModel, ← hzero]
  exact decide_eq_true_iff

/-- **What does not compare as zero or less** is a finite number greater than zero, or infinity, or
NaN. -/
theorem not_le_zero_iff (x : Float) :
    ¬ x ≤ 0.0 ↔ IsPositive x ∨ partsOf x = .infinite false ∨ partsOf x = .nan := by
  rw [le_zero_iff, IsPositive]
  cases partsOf x with
  | nan => exact iff_of_true Bool.false_ne_true (.inr (.inr rfl))
  | infinite negative =>
    cases negative with
    | false => exact iff_of_true Bool.false_ne_true (.inr (.inl rfl))
    | true =>
      refine iff_of_false (fun h => h rfl) ?_
      rintro (⟨_, _, -, ⟨⟩⟩ | ⟨⟨⟩⟩ | ⟨⟨⟩⟩)
  | finite negative mantissa exponent =>
    -- a zero is not positive, whatever its sign, and otherwise the sign decides
    rcases Nat.eq_zero_or_pos mantissa with rfl | hpos
    · refine iff_of_false (fun h => h ?_) ?_
      · cases negative <;> rfl
      · rintro (⟨_, _, hpos, ⟨⟩⟩ | ⟨⟨⟩⟩ | ⟨⟨⟩⟩)
        exact Nat.lt_irrefl 0 hpos
    · rw [Parts.unpacked, dif_neg (Nat.pos_iff_ne_zero.mp hpos)]
      cases negative with
      | false => exact iff_of_true Bool.false_ne_true (.inl ⟨mantissa, exponent, hpos, rfl⟩)
      | true =>
        refine iff_of_false (fun h => h rfl) ?_
        rintro (⟨_, _, -, ⟨⟩⟩ | ⟨⟨⟩⟩ | ⟨⟨⟩⟩)

end LoadLedger.Number
