/-!
# Binary64 numbers in exact arithmetic

Every finite floating-point number is a mantissa times a power of two. Reading a number apart and
rounding a quotient to the nearest one (a tie goes to the even mantissa) are the two passages
between `Float` and the exact numbers; conversion, comparison, rounding and printing go through
them.
-/

namespace LoadLedger.Number

/-- A power of two. -/
def twoTo (n : Nat) : Nat :=
  Nat.pow 2 n

/-- A power of ten. -/
def tenTo (n : Nat) : Nat :=
  Nat.pow 10 n

theorem twoTo_pos (n : Nat) : 0 < twoTo n :=
  Nat.two_pow_pos n

theorem twoTo_le_twoTo {m n : Nat} (h : m ≤ n) : twoTo m ≤ twoTo n :=
  Nat.pow_le_pow_right (by decide) h

theorem tenTo_le_tenTo {m n : Nat} (h : m ≤ n) : tenTo m ≤ tenTo n :=
  Nat.pow_le_pow_right (by decide) h

/-- A floating-point number taken apart: a finite one is `mantissa * 2 ^ exponent`, negated if
`negative`. -/
inductive Parts
  | nan
  | infinite (negative : Bool)
  | finite (negative : Bool) (mantissa : Nat) (exponent : Int)
  deriving DecidableEq

/-- The least exponent of a finite number. -/
def leastExponent : Int := -1074

/-- Takes a number apart. -/
def partsOf (x : Float) : Parts :=
  let bits : Nat := x.toBits.toNat
  let negative := decide (twoTo 63 ≤ bits)
  let biased : Nat := bits / twoTo 52 % 2048
  let fraction : Nat := bits % twoTo 52
  if biased = 2047 then (if fraction = 0 then .infinite negative else .nan)
  else if biased = 0 then .finite negative fraction leastExponent
  else .finite negative (twoTo 52 + fraction) ((biased : Int) - 1075)

/-- A nonnegative rational number, not reduced. -/
structure Ratio where
  num : Nat
  den : Nat

/-- `mantissa * 2 ^ exponent`. -/
def Ratio.binary (mantissa : Nat) (exponent : Int) : Ratio :=
  if 0 ≤ exponent then ⟨mantissa * twoTo exponent.toNat, 1⟩
  else ⟨mantissa, twoTo (-exponent).toNat⟩

/-- `coefficient * 10 ^ exponent`. -/
def Ratio.decimal (coefficient : Nat) (exponent : Int) : Ratio :=
  if 0 ≤ exponent then ⟨coefficient * tenTo exponent.toNat, 1⟩
  else ⟨coefficient, tenTo (-exponent).toNat⟩

/-- The number times ten. -/
def Ratio.timesTen (r : Ratio) : Ratio :=
  ⟨r.num * 10, r.den⟩

/-- The nearest integer; a tie goes to the even one. -/
def Ratio.round (r : Ratio) : Nat :=
  let q := r.num / r.den
  let twice := 2 * (r.num % r.den)
  if r.den < twice || (twice == r.den && q % 2 == 1) then q + 1 else q

/-- The exponent with which a positive number has a mantissa of 53 bits, or the least exponent if
that is greater. -/
def Ratio.binaryExponent (r : Ratio) : Int :=
  let estimate : Int := r.num.log2 - r.den.log2 - 52
  let scaled := Ratio.binary 1 (-estimate)
  let tooGreat := decide (r.num * scaled.num < twoTo 52 * (r.den * scaled.den))
  max (if tooGreat then estimate - 1 else estimate) leastExponent

/-- The bits of the number nearest to a positive ratio, without sign. A mantissa that rounds up to
54 bits carries into the exponent, and beyond the greatest number lies infinity. -/
def Ratio.bits (r : Ratio) : Nat :=
  let exponent := r.binaryExponent
  let scale := Ratio.binary 1 (-exponent)
  let mantissa := (Ratio.mk (r.num * scale.num) (r.den * scale.den)).round
  min ((exponent - leastExponent).toNat * twoTo 52 + mantissa) (2047 * twoTo 52)

/-- The floating-point number nearest to a ratio. -/
def Ratio.toFloat (negative : Bool) (r : Ratio) : Float :=
  let magnitude := if r.num = 0 then 0 else r.bits
  Float.ofBits (UInt64.ofNat (if negative then twoTo 63 + magnitude else magnitude))

/-- The floating-point number nearest to an integer, `none` if it is too large for a finite one. -/
def ofInt? (i : Int) : Option Float :=
  let x := Ratio.toFloat (i < 0) ⟨i.natAbs, 1⟩
  match partsOf x with
  | .finite .. => some x
  | _ => none

/-- The integer part of a number, toward zero. -/
def truncate (negative : Bool) (mantissa : Nat) (exponent : Int) : Int :=
  let r := Ratio.binary mantissa exponent
  let magnitude : Int := (r.num / r.den : Nat)
  if negative then -magnitude else magnitude

/-- Is the number the given integer? -/
def equalsInt (x : Float) (i : Int) : Bool :=
  match partsOf x with
  | .finite negative mantissa exponent =>
    let r := Ratio.binary mantissa exponent
    r.num % r.den == 0 && truncate negative mantissa exponent == i
  | _ => false

/-- The quotient of two integers as a floating-point number, correctly rounded. The divisor is
positive. -/
def quotient (i : Int) (den : Nat) : Float :=
  Ratio.toFloat (i < 0) ⟨i.natAbs, den⟩

/-- The nearest number with at most one decimal place: the exact value is rounded, and a tie goes to
the even tenth. Infinities and NaN stay as they are. -/
def roundToTenth (x : Float) : Float :=
  match partsOf x with
  | .finite negative mantissa exponent =>
    Ratio.toFloat negative ⟨(Ratio.binary mantissa exponent).timesTen.round, 10⟩
  | _ => x

example : partsOf 1.5 = .finite false (3 * twoTo 51) (-52) := by decide +kernel
example : partsOf (0.0 / 0.0) = .nan := by decide +kernel
example : (ofInt? 9007199254740993).map partsOf = some (partsOf 9007199254740992) := by
  decide +kernel
example : ofInt? (tenTo 400) = none := by decide +kernel
example : partsOf (roundToTenth 0.25) = partsOf 0.2 := by decide +kernel

end LoadLedger.Number
