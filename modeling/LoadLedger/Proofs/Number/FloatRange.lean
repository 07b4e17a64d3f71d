import LoadLedger.Number.Binary64
import Mathlib

/-!
# The range of floating-point numbers

An integer is converted to the nearest floating-point number unless it is too large for a finite
one. The limit lies half a unit in the last place above the greatest finite number
(`Number.ofInt?_isSome_iff`). The argument goes through the bits: rounding a positive integer gives
the bits of a finite number exactly below the limit (`Number.bits_lt_iff`), and making a number of
bits and taking it apart again keeps the exponent field (`Number.exponentField_ofBits`).

`Number.integerLimit` is that limit as an integer. Whether a number is finite is asked of its parts
(`Number.Parts.isFinite`), and for the conversion of an integer it is answered in
`Number.isFinite_toFloat_iff`.
-/

namespace LoadLedger.Number

/-! ## The exponent field survives -/

section ExponentField

open Float.Model Float.Model.UnpackedFloat

/-- A mantissa below the implicit bit is packed with the exponent field zero. -/
theorem unpackExponent_pack_subnormal (s : Sign) {m : Nat} (hpos : 0 < m) (hm : m < 2 ^ 52) :
    unpackExponent (UnpackedFloat.pack .binary64 (.finite s m (-1074) hpos)) = 0#11 := by
  have hlog : ¬ m.log2 + 1 = Format.binary64.mantissaBits := by
    intro hlog
    have hbits : Format.binary64.mantissaBits = 53 := rfl
    have := (Nat.log2_lt (Nat.pos_iff_ne_zero.mp hpos)).mpr hm
    omega
  rw [UnpackedFloat.pack]
  simp only [hlog, if_false]
  rw [if_neg (by decide)]
  exact unpackExponent_packComponents

/-- A mantissa with the implicit bit is packed with the biased exponent, which `UnpackedFloat`
stores without the bias and in units of the last place. -/
theorem unpackExponent_pack_normal (s : Sign) {m biased : Nat} (hpos : 0 < m) (hlow : 2 ^ 52 ≤ m)
    (hhigh : m < 2 ^ 53) (hbiased : biased < 2047) :
    unpackExponent (UnpackedFloat.pack .binary64 (.finite s m (biased - 1075) hpos)) =
      BitVec.ofNat 11 biased := by
  have hlog : m.log2 + 1 = Format.binary64.mantissaBits := by
    have hbits : Format.binary64.mantissaBits = 53 := rfl
    have hne := Nat.pos_iff_ne_zero.mp hpos
    have h₁ := (Nat.log2_lt hne).mpr hhigh
    have h₂ := (Nat.le_log2 hne).mpr hlow
    omega
  have hexponent : ((biased : Int) - 1075 + Format.binary64.exponentBias +
      Format.binary64.mantissaBitsWithoutImplicit).toNat = biased := by
    change ((biased : Int) - 1075 + 1023 + 52).toNat = biased
    omega
  rw [UnpackedFloat.pack]
  simp only [hlog, if_true, hexponent]
  rw [if_neg (by omega)]
  exact unpackExponent_packComponents

/-- Unpacking and packing again keeps the exponent field of every pattern of bits, NaN included. -/
theorem unpackExponent_pack_unpack (b : BitVec Format.binary64.numBits) :
    unpackExponent (UnpackedFloat.pack .binary64 (UnpackedFloat.unpack .binary64 b)) =
      unpackExponent b := by
  have hmantissa : (unpackMantissa b).toNat < 2 ^ 52 := (unpackMantissa b).isLt
  have hexponent : (unpackExponent b).toNat < 2 ^ 11 := (unpackExponent b).isLt
  rw [UnpackedFloat.unpack]
  split
  · rename_i hall
    rw [hall]
    split
    · exact unpackExponent_packComponents
    · exact unpackExponent_packComponents
  · rename_i hall
    split
    · rename_i hzero
      rw [hzero]
      split
      · exact unpackExponent_packComponents
      -- a number without the implicit bit has the exponent zero on both sides
      · exact unpackExponent_pack_subnormal _ _ hmantissa
    · -- a normal number: the implicit bit stands before the stored mantissa
      have hcons : (1#1 ++ unpackMantissa b).toNat = 2 ^ 52 * 1 + (unpackMantissa b).toNat := by
        rw [BitVec.toNat_append, Nat.two_pow_add_eq_or_of_lt hmantissa, Nat.shiftLeft_eq]
        rfl
      have hne : (unpackExponent b).toNat ≠ 2047 := by
        intro h
        exact hall (BitVec.eq_of_toNat_eq h)
      refine (unpackExponent_pack_normal _ _ (by omega) (by omega) (by omega)).trans ?_
      exact (BitVec.ofNat_toNat 11 _).trans (BitVec.setWidth_eq _)

/-- The exponent field of a pattern of bits, cut out with a division and a remainder as `partsOf`
does it. -/
theorem toNat_unpackExponent (b : BitVec Format.binary64.numBits) :
    (unpackExponent b).toNat = b.toNat / 2 ^ 52 % 2048 := by
  change (b.toNat >>> 52) % 2 ^ 11 = _
  rw [Nat.shiftRight_eq_div_pow]

/-- **The exponent field survives** the passage through a number. The other bits need not:
`Float.ofBits` makes one NaN of all. -/
theorem exponentField_ofBits {n : Nat} (hn : n < 2 ^ 64) :
    (Float.ofBits (UInt64.ofNat n)).toBits.toNat / twoTo 52 % 2048 = n / twoTo 52 % 2048 := by
  have h := congrArg BitVec.toNat (unpackExponent_pack_unpack (UInt64.ofNat n).toBitVec)
  rw [toNat_unpackExponent, toNat_unpackExponent] at h
  have hnat : (UInt64.ofNat n).toBitVec.toNat = n := Nat.mod_eq_of_lt hn
  rw [hnat] at h
  exact h

end ExponentField

/-- Is the number finite? -/
def Parts.isFinite : Parts → Bool
  | .finite .. => true
  | _ => false

/-- Infinity and NaN are the numbers whose exponent field is full: so much of `partsOf` can be told
from the bits that `Ratio.toFloat` puts together. -/
theorem isFinite_partsOf_ofBits {n : Nat} (hn : n < 2 ^ 64) :
    (partsOf (Float.ofBits (UInt64.ofNat n))).isFinite = true ↔ n / twoTo 52 % 2048 ≠ 2047 := by
  rw [← exponentField_ofBits hn, partsOf]
  split
  · rename_i h
    split <;> simp [Parts.isFinite, h]
  · rename_i h
    split <;> simp [Parts.isFinite, h]

/-! ## Rounding a positive integer -/

/-- `Ratio.round` takes the integer part or the integer after it. -/
theorem round_le {num den : Nat} : (Ratio.mk num den).round ≤ num / den + 1 := by
  rw [Ratio.round]
  dsimp only
  split <;> omega

theorem le_round {num den : Nat} : num / den ≤ (Ratio.mk num den).round := by
  rw [Ratio.round]
  dsimp only
  split <;> omega

/-- The scale of a number of at most 53 bits. -/
theorem binary_of_le {k : Nat} (h : k ≤ 52) :
    Ratio.binary 1 (-((k : Int) - 52)) = ⟨2 ^ (52 - k), 1⟩ := by
  have hexp : (-((k : Int) - 52)).toNat = 52 - k := by omega
  rw [Ratio.binary, if_pos (by omega), hexp, Nat.one_mul]
  rfl

/-- The scale of a number of more than 53 bits. -/
theorem binary_of_lt {k : Nat} (h : 52 < k) :
    Ratio.binary 1 (-((k : Int) - 52)) = ⟨1, 2 ^ (k - 52)⟩ := by
  have hexp : (- -((k : Int) - 52)).toNat = k - 52 := by omega
  rw [Ratio.binary, if_neg (by omega), hexp]
  rfl

/-- `twoTo` is a power of two; it is a definition of its own so that closed powers are evaluated by
the kernel. -/
theorem twoTo_eq (n : Nat) : twoTo n = 2 ^ n := rfl

theorem two_pow_split {m k : Nat} (h : m ≤ k) : 2 ^ k = 2 ^ m * 2 ^ (k - m) := by
  rw [← Nat.pow_add]
  congr 1
  omega

/-- The leading bit of an integer decides the exponent: the estimate of `Ratio.binaryExponent` is
never too great. -/
theorem binaryExponent_nat {n : Nat} (hn : 0 < n) :
    (Ratio.mk n 1).binaryExponent = (n.log2 : Int) - 52 := by
  have hlow : 2 ^ n.log2 ≤ n := Nat.log2_self_le (Nat.pos_iff_ne_zero.mp hn)
  have hestimate : (n.log2 : Int) - (Nat.log2 1 : Nat) - 52 = n.log2 - 52 := by
    have : Nat.log2 1 = 0 := by decide
    omega
  -- the estimate is never too large: the number has all of its leading bit
  have hgreat : ¬ n * (Ratio.binary 1 (-((n.log2 : Int) - 52))).num <
      twoTo 52 * (1 * (Ratio.binary 1 (-((n.log2 : Int) - 52))).den) := by
    have h52 : twoTo 52 = 2 ^ 52 := rfl
    rw [h52]
    rcases Nat.lt_or_ge 52 n.log2 with h | h
    · rw [binary_of_lt h, Nat.one_mul, Nat.mul_one, ← two_pow_split (Nat.le_of_lt h)]
      exact Nat.not_lt.mpr hlow
    · rw [binary_of_le h, Nat.mul_one, Nat.mul_one, two_pow_split h]
      exact Nat.not_lt.mpr (Nat.mul_le_mul_right _ hlow)
  rw [Ratio.binaryExponent]
  dsimp only
  rw [hestimate, decide_eq_false hgreat, if_neg Bool.false_ne_true]
  simp only [leastExponent]
  omega

/-- The **mantissa of a positive integer**, rounded to 53 bits: the integer in units of its last
place. -/
def mantissaOf (n : Nat) : Nat :=
  let scale := Ratio.binary 1 (-((n.log2 : Int) - 52))
  (Ratio.mk (n * scale.num) (1 * scale.den)).round

theorem le_mantissaOf {n : Nat} (hn : 0 < n) : 2 ^ 52 ≤ mantissaOf n := by
  have hlow : 2 ^ n.log2 ≤ n := Nat.log2_self_le (Nat.pos_iff_ne_zero.mp hn)
  refine Nat.le_trans ?_ le_round
  rcases Nat.lt_or_ge 52 n.log2 with h | h
  · rw [binary_of_lt h, Nat.one_mul, Nat.mul_one, Nat.le_div_iff_mul_le (Nat.two_pow_pos _),
      ← two_pow_split (Nat.le_of_lt h)]
    exact hlow
  · rw [binary_of_le h, Nat.one_mul, Nat.div_one, two_pow_split h]
    exact Nat.mul_le_mul_right _ hlow

theorem mantissaOf_le (n : Nat) : mantissaOf n ≤ 2 ^ 53 := by
  have hhigh : n < 2 ^ (n.log2 + 1) := Nat.lt_log2_self
  refine Nat.le_trans round_le ?_
  rcases Nat.lt_or_ge 52 n.log2 with h | h
  · rw [binary_of_lt h, Nat.one_mul, Nat.mul_one]
    have hsplit : 2 ^ (n.log2 + 1) = 2 ^ 53 * 2 ^ (n.log2 - 52) := by
      rw [← Nat.pow_add]; congr 1; omega
    exact (Nat.div_lt_iff_lt_mul (Nat.two_pow_pos _)).mpr (hsplit ▸ hhigh)
  · rw [binary_of_le h, Nat.one_mul, Nat.div_one]
    have hsplit : 2 ^ 53 = 2 ^ (n.log2 + 1) * 2 ^ (52 - n.log2) := by
      rw [← Nat.pow_add]; congr 1; omega
    rw [hsplit]
    exact Nat.mul_lt_mul_of_pos_right hhigh (Nat.two_pow_pos _)

/-- The bits of a positive integer, put together from its leading bit and its mantissa. A mantissa
that has carried increases the exponent field by itself, and `min` keeps to the bits of infinity. -/
theorem bits_nat {n : Nat} (hn : 0 < n) :
    (Ratio.mk n 1).bits = min ((n.log2 + 1022) * twoTo 52 + mantissaOf n) (2047 * twoTo 52) := by
  have hexp : ((n.log2 : Int) - 52 - leastExponent).toNat = n.log2 + 1022 := by
    simp only [leastExponent]
    omega
  rw [Ratio.bits]
  dsimp only
  rw [binaryExponent_nat hn, hexp]
  rfl

/-! ## The limit -/

/-- The least integer that is too large for a finite floating-point number: half a unit in the last
place above the greatest one. -/
def integerLimit : Nat := twoTo 1024 - twoTo 970

/-- Rounding to units of `2 * half` stays below 53 bits exactly below the last tie, which would go
up since the greatest mantissa is odd. -/
theorem round_lt_iff {n half : Nat} (hn : n < 2 ^ 53 * (2 * half)) :
    (Ratio.mk n (2 * half)).round < 2 ^ 53 ↔ n < (2 ^ 54 - 1) * half := by
  have hhalf : 0 < 2 * half := by omega
  have hdiv := Nat.div_add_mod n (2 * half)
  have hmod : n % (2 * half) < 2 * half := Nat.mod_lt _ hhalf
  have hq : n / (2 * half) < 2 ^ 53 := (Nat.div_lt_iff_lt_mul hhalf).mpr hn
  rw [Ratio.round]
  dsimp only
  generalize n % (2 * half) = r at hdiv hmod ⊢
  generalize n / (2 * half) = q at hdiv hq ⊢
  -- Only at the last unit below 53 bits does the remainder matter, and there the tie goes up.
  rcases Nat.lt_or_ge q (2 ^ 53 - 1) with hlt | hge
  · have hmul : 2 * half * q ≤ 2 * half * (2 ^ 53 - 2) := Nat.mul_le_mul_left _ (by omega)
    have hbelow : n < (2 ^ 54 - 1) * half := by omega
    refine iff_of_true ?_ hbelow
    split <;> omega
  · obtain rfl : q = 2 ^ 53 - 1 := by omega
    simp only [Bool.or_eq_true, Bool.and_eq_true, decide_eq_true_eq, beq_iff_eq]
    split <;> omega

/-- With the greatest exponent, the limit decides whether the mantissa carries (`round_lt_iff`). -/
theorem mantissaOf_lt_iff {n : Nat} (hn : n.log2 = 1023) :
    mantissaOf n < 2 ^ 53 ↔ n < integerLimit := by
  have hlimit : integerLimit = (2 ^ 54 - 1) * twoTo 970 := by decide +kernel
  have hunit : 2 ^ (1023 - 52) = 2 * twoTo 970 := by decide +kernel
  have htop : twoTo 1024 = 2 ^ 53 * (2 * twoTo 970) := by decide +kernel
  have hhigh : n < twoTo 1024 := by
    have hlog : n < twoTo (n.log2 + 1) := Nat.lt_log2_self
    rwa [hn] at hlog
  rw [mantissaOf, hn, binary_of_lt (by omega), Nat.mul_one, Nat.one_mul, hunit, hlimit]
  exact round_lt_iff (htop ▸ hhigh)

/-- A positive integer rounds to a finite number exactly below the limit. The leading bit alone
decides, unless it is the greatest one of finite numbers. -/
theorem bits_lt_iff {n : Nat} (hn : 0 < n) :
    (Ratio.mk n 1).bits < 2047 * twoTo 52 ↔ n < integerLimit := by
  have h52 : twoTo 52 = 2 ^ 52 := rfl
  have hlow : 2 ^ n.log2 ≤ n := Nat.log2_self_le (Nat.pos_iff_ne_zero.mp hn)
  have hhigh : n < 2 ^ (n.log2 + 1) := Nat.lt_log2_self
  have h₁ := le_mantissaOf hn
  have h₂ := mantissaOf_le n
  rw [bits_nat hn, h52]
  -- The greatest finite numbers have the leading bit 1023.
  rcases Nat.lt_trichotomy n.log2 1023 with h | h | h
  · have hlimit : twoTo 1023 ≤ integerLimit := by decide +kernel
    have hpow : twoTo (n.log2 + 1) ≤ twoTo 1023 := twoTo_le_twoTo h
    rw [twoTo_eq] at hpow
    constructor <;> intro <;> omega
  · have hiff := mantissaOf_lt_iff h
    rw [h]
    constructor
    · intro hlt
      exact hiff.mp (by omega)
    · intro hlt
      have := hiff.mpr hlt
      omega
  · have hlimit : integerLimit ≤ twoTo 1024 := Nat.sub_le _ _
    have hpow : twoTo 1024 ≤ twoTo n.log2 := twoTo_le_twoTo h
    rw [twoTo_eq n.log2] at hpow
    constructor <;> intro <;> omega

/-- The sign is a bit above the exponent field and does not matter, so that `Ratio.toFloat` is
finite below the limit for negative integers as well. -/
theorem isFinite_toFloat_iff (negative : Bool) (n : Nat) :
    (partsOf (Ratio.toFloat negative ⟨n, 1⟩)).isFinite = true ↔ n < integerLimit := by
  have h52 : twoTo 52 = 2 ^ 52 := rfl
  have h63 : twoTo 63 = 2048 * 2 ^ 52 := rfl
  rcases Nat.eq_zero_or_pos n with rfl | hn
  · have hlimit : 0 < integerLimit := by decide +kernel
    refine iff_of_true ?_ hlimit
    cases negative <;> decide +kernel
  -- the bits are capped below the sign, where the exponent of an infinity is
  · have hbits : (Ratio.mk n 1).bits ≤ 2047 * 2 ^ 52 := by
      rw [bits_nat hn]
      exact Nat.min_le_right _ _
    have hiff := bits_lt_iff hn
    rw [h52] at hiff
    rw [Ratio.toFloat]
    dsimp only
    rw [if_neg (Nat.pos_iff_ne_zero.mp hn), ← hiff]
    cases negative
    · rw [if_neg Bool.false_ne_true, isFinite_partsOf_ofBits (by omega), h52]
      omega
    · rw [if_pos rfl, isFinite_partsOf_ofBits (by omega), h52, h63]
      omega

/-- **An integer is converted exactly below the limit.** Beyond it `ofInt?` has no answer, and
whoever needs one meets an overflow. -/
theorem ofInt?_isSome_iff (i : Int) : (ofInt? i).isSome ↔ i.natAbs < integerLimit := by
  rw [← isFinite_toFloat_iff (i < 0), ofInt?]
  cases partsOf (Ratio.toFloat (i < 0) ⟨i.natAbs, 1⟩) <;> simp [Parts.isFinite]

end LoadLedger.Number
