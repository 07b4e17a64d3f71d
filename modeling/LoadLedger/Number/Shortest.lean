import LoadLedger.Number.Binary64

/-!
# The shortest text of a floating-point number

A number is written with the fewest digits that read back as it. The reals that round to a number
form an interval; its ends belong to it if the mantissa is even. For one digit, two digits and so
on, the decimal grid of that many digits has two points around the number, and the first grid with a
point inside the interval wins; of two points inside, the nearer.

The layout is positional for decimal exponents from -4 to 15 and scientific beyond.
-/

namespace LoadLedger.Number

/-- The interval of the reals that round to a positive number, over a common denominator. -/
structure RoundingInterval where
  low : Nat
  value : Nat
  high : Nat
  den : Nat
  closed : Bool

/-- The interval around `mantissa * 2 ^ exponent`. Below a power of two the neighbour is only half
as far. -/
def RoundingInterval.around (mantissa : Nat) (exponent : Int) : RoundingInterval :=
  let below := if mantissa = twoTo 52 ∧ leastExponent < exponent then 1 else 2
  let unit := Ratio.binary 1 (exponent - 2)
  { low := (4 * mantissa - below) * unit.num
    value := 4 * mantissa * unit.num
    high := (4 * mantissa + 2) * unit.num
    den := unit.den
    closed := mantissa % 2 == 0 }

/-- Does the interval hold the number `point / den` of a grid with `unit = num / den`? -/
def RoundingInterval.holds (i : RoundingInterval) (unit : Ratio) (point : Nat) : Bool :=
  let x := point * unit.num * i.den
  let low := i.low * unit.den
  let high := i.high * unit.den
  if i.closed then low ≤ x && x ≤ high else low < x && x < high

/-- The grid point of the given unit that stands for the number, if one of its two neighbours on the
grid lies in the interval. -/
def RoundingInterval.point? (i : RoundingInterval) (unit : Ratio) : Option Nat :=
  let num := i.value * unit.den
  let den := i.den * unit.num
  let floor := num / den
  let nearer := (Ratio.mk num den).round
  match i.holds unit floor, i.holds unit (floor + 1) with
  | true, true => some nearer
  | true, false => some floor
  | false, true => some (floor + 1)
  | false, false => none

/-- The number of digits before the decimal point of a positive ratio: the `p` with
`10 ^ (p - 1) ≤ num / den < 10 ^ p`. -/
def Ratio.decimalExponent (r : Ratio) : Int :=
  let estimate : Int := (Nat.toDigits 10 r.num).length - (Nat.toDigits 10 r.den).length
  let power := Ratio.decimal 1 estimate
  if r.num * power.den < power.num * r.den then estimate else estimate + 1

/-- Digits without leading or trailing zeros, and the place of the decimal point before them. -/
structure Decimal where
  digits : List Char
  point : Int

/-- The first grid with a point in the interval, among `fuel` grids from `count` digits on. -/
def shortestFrom (i : RoundingInterval) (magnitude : Int) : Nat → Nat → Decimal
  | 0, _ => ⟨['0'], 1⟩
  | fuel + 1, count =>
    match i.point? (Ratio.decimal 1 (magnitude - count)) with
    | some point =>
      let digits := Nat.toDigits 10 point
      ⟨(digits.reverse.dropWhile (· == '0')).reverse, digits.length + (magnitude - count)⟩
    | none => shortestFrom i magnitude fuel (count + 1)

/-- The shortest decimal that reads back as a positive number. Seventeen digits always suffice. -/
def shortestDecimal (mantissa : Nat) (exponent : Int) : Decimal :=
  let magnitude := (Ratio.binary mantissa exponent).decimalExponent
  shortestFrom (.around mantissa exponent) magnitude 17 1

/-- How decimals are laid out: which exponents are written positionally, and the least number of
digits of a written exponent. -/
structure Layout where
  leastPositional : Int
  greatestPositional : Int
  exponentDigits : Nat

/-- The layout of every floating-point number in messages and tables. -/
def layout : Layout :=
  { leastPositional := -4, greatestPositional := 15, exponentDigits := 2 }

/-- The digits with the decimal point among them; at least one digit stands on each side. -/
def Decimal.positional (d : Decimal) : List Char :=
  let count := d.digits.length
  if d.point ≤ 0 then ['0', '.'] ++ List.replicate (-d.point).toNat '0' ++ d.digits
  else if d.point < count then d.digits.take d.point.toNat ++ ['.'] ++ d.digits.drop d.point.toNat
  else d.digits ++ List.replicate (d.point.toNat - count) '0' ++ ['.', '0']

/-- One digit, the others after a point, and the exponent. -/
def Decimal.scientific (d : Decimal) (exponentDigits : Nat) : List Char :=
  let exponent := d.point - 1
  let written := Nat.toDigits 10 exponent.natAbs
  let fraction := d.digits.drop 1
  d.digits.take 1 ++ (if fraction.isEmpty then [] else '.' :: fraction) ++
    ['e', if exponent < 0 then '-' else '+'] ++
    List.replicate (exponentDigits - written.length) '0' ++ written

/-- The text of a decimal. -/
def Decimal.layOut (d : Decimal) (layout : Layout) : List Char :=
  let exponent := d.point - 1
  if layout.leastPositional ≤ exponent ∧ exponent ≤ layout.greatestPositional then d.positional
  else d.scientific layout.exponentDigits

/-- The shortest text of a floating-point number. -/
def floatChars (x : Float) : List Char :=
  match partsOf x with
  | .nan => ['n', 'a', 'n']
  | .infinite negative => if negative then ['-', 'i', 'n', 'f'] else ['i', 'n', 'f']
  | .finite negative mantissa exponent =>
    let magnitude :=
      if mantissa = 0 then ['0', '.', '0'] else (shortestDecimal mantissa exponent).layOut layout
    if negative then '-' :: magnitude else magnitude

/-- The shortest text of a floating-point number. -/
def floatText (x : Float) : String :=
  String.ofList (floatChars x)

example : floatChars 0.1 = ['0', '.', '1'] := by decide +kernel
example : floatChars 1e16 = ['1', 'e', '+', '1', '6'] := by decide +kernel
example : floatChars (-0.0) = ['-', '0', '.', '0'] := by decide +kernel
example : floatChars 5e-324 = ['5', 'e', '-', '3', '2', '4'] := by decide +kernel

end LoadLedger.Number
