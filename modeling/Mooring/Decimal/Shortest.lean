import Mooring.Decimal.Binary64

/-! The shortest decimal that reads back as a given binary value. For one digit, two digits and so
on the two neighbours of the value on that decimal grid are tried; the first grid with a neighbour
inside the interval of reals that round to the value wins, and of two neighbours the nearer. -/

namespace Mooring.Decimal

structure Numeral where
  digits : Nat
  exponent : Int
  deriving DecidableEq, Repr

structure Ratio where
  numerator : Nat
  denominator : Nat

namespace Ratio

def ofScaled (n : Nat) (exponent : Int) : Ratio := ⟨n * powerOfTwo exponent, powerOfTwo (-exponent)⟩

def overTenToThe (ratio : Ratio) (k : Int) : Ratio :=
  ⟨ratio.numerator * Nat.pow 10 (-k).toNat, ratio.denominator * Nat.pow 10 k.toNat⟩

def leNat (ratio : Ratio) (n : Nat) : Bool := decide (ratio.numerator ≤ n * ratio.denominator)

def ltNat (ratio : Ratio) (n : Nat) : Bool := decide (ratio.numerator < n * ratio.denominator)

def geNat (ratio : Ratio) (n : Nat) : Bool := decide (n * ratio.denominator ≤ ratio.numerator)

def gtNat (ratio : Ratio) (n : Nat) : Bool := decide (n * ratio.denominator < ratio.numerator)

def decimalLogarithm (ratio : Ratio) : Int :=
  let estimate := (binaryLogarithm ratio.numerator ratio.denominator * 30103) / 100000
  if (ratio.overTenToThe (estimate + 1)).geNat 1 then estimate + 1
  else if (ratio.overTenToThe estimate).geNat 1 then estimate
  else estimate - 1

end Ratio

/-- The reals that round to a value; the ends belong to it when the significand is even. -/
structure RoundingInterval where
  lower : Ratio
  upper : Ratio
  closed : Bool

def roundingInterval (value : Binary64) : RoundingInterval :=
  let m := value.significand
  let lower :=
    if m = leastFullSignificand ∧ leastExponent < value.exponent then Ratio.ofScaled (4 * m - 1) (value.exponent - 2)
    else Ratio.ofScaled (2 * m - 1) (value.exponent - 1)
  ⟨lower, Ratio.ofScaled (2 * m + 1) (value.exponent - 1), m % 2 = 0⟩

def RoundingInterval.holds (interval : RoundingInterval) (point : Nat) (k : Int) : Bool :=
  let lower := interval.lower.overTenToThe k
  let upper := interval.upper.overTenToThe k
  if interval.closed then lower.leNat point && upper.geNat point
  else lower.ltNat point && upper.gtNat point

def nearestOnGrid? (value : Binary64) (k : Int) : Option Nat :=
  let interval := roundingInterval value
  let scaled := (Ratio.ofScaled value.significand value.exponent).overTenToThe k
  let below := scaled.numerator / scaled.denominator
  let twice := 2 * (scaled.numerator % scaled.denominator)
  match interval.holds below k, interval.holds (below + 1) k with
  | true, true =>
    if twice < scaled.denominator ∨ (twice = scaled.denominator ∧ below % 2 = 0) then some below
    else some (below + 1)
  | true, false => some below
  | false, true => some (below + 1)
  | false, false => none

def shortestFrom (value : Binary64) (first : Int) : Nat → Nat → Numeral
  | 0, _ => ⟨value.significand, value.exponent⟩
  | fuel + 1, count =>
    let k := first - count + 1
    match nearestOnGrid? value k with
    | some digits => ⟨digits, k⟩
    | none => shortestFrom value first fuel (count + 1)

def Numeral.normalFrom : Nat → Numeral → Numeral
  | 0, d => d
  | fuel + 1, d =>
    if d.digits ≠ 0 ∧ d.digits % 10 = 0 then normalFrom fuel ⟨d.digits / 10, d.exponent + 1⟩ else d

/-- Seventeen digits always suffice. -/
def shortest (value : Binary64) : Numeral :=
  if value.isZero then ⟨0, 0⟩
  else
    let first := (Ratio.ofScaled value.significand value.exponent).decimalLogarithm
    Numeral.normalFrom 18 (shortestFrom value first 18 1)

def digitChars (n : Nat) : List Char := Nat.toDigits 10 n

def scaleChars (scale : Int) : List Char :=
  'e' :: (if scale < 0 then '-' else '+') :: digitChars scale.natAbs

/-- Positional text between 10⁻⁵ and 10¹⁶ with at least one place after the point, and otherwise
one digit in front of the point and an exponent. -/
def Numeral.chars (d : Numeral) : List Char :=
  let digits := digitChars d.digits
  let point : Int := digits.length + d.exponent
  let zeros (n : Int) : List Char := List.replicate n.toNat '0'
  if 0 ≤ d.exponent ∧ point ≤ 16 then digits ++ zeros d.exponent ++ ['.', '0']
  else if 0 < point ∧ point ≤ 16 then digits.take point.toNat ++ '.' :: digits.drop point.toNat
  else if -5 < point ∧ point ≤ 0 then '0' :: '.' :: zeros (-point) ++ digits
  else
    match digits with
    | [single] => single :: scaleChars (point - 1)
    | head :: tail => head :: '.' :: tail ++ scaleChars (point - 1)
    | [] => []

def Binary64.chars (value : Binary64) : List Char :=
  let magnitude := if value.isZero then ['0', '.', '0'] else (shortest value).chars
  if value.negative then '-' :: magnitude else magnitude

end Mooring.Decimal
