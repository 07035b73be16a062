/-! Finite values of the binary format with 53 significant bits, as a sign and a significand times
a power of two, and correct rounding of a ratio to them: to the nearest value, a tie to the even
significand. All arithmetic is exact. -/

namespace Mooring.Decimal

/-- A nonzero value has a significand of 53 bits, or the least exponent. -/
structure Binary64 where
  negative : Bool
  significand : Nat
  exponent : Int
  deriving DecidableEq, Repr, Inhabited

def powerOfTwo (k : Int) : Nat := Nat.pow 2 k.toNat

def leastFullSignificand : Nat := 0x10000000000000

def leastExponent : Int := -1074

def greatestExponent : Int := 971

def halfEven (numerator denominator : Nat) : Nat :=
  let quotient := numerator / denominator
  let twice := 2 * (numerator % denominator)
  if denominator < twice ∨ (twice = denominator ∧ quotient % 2 = 1) then quotient + 1 else quotient

def binaryLogarithm (numerator denominator : Nat) : Int :=
  let estimate : Int := (Nat.log2 numerator : Int) - Nat.log2 denominator
  if numerator * powerOfTwo (-estimate) < denominator * powerOfTwo estimate then estimate - 1
  else estimate

namespace Binary64

def zero (negative : Bool) : Binary64 := ⟨negative, 0, leastExponent⟩

def isZero (value : Binary64) : Bool := value.significand = 0

/-- The nearest value to a ratio, `none` from the midpoint above the greatest value on. -/
def ofRatio (negative : Bool) (numerator denominator : Nat) : Option Binary64 :=
  if numerator = 0 then some (zero negative)
  else
    let exponent := max (binaryLogarithm numerator denominator - 52) leastExponent
    let significand :=
      halfEven (numerator * powerOfTwo (-exponent)) (denominator * powerOfTwo exponent)
    let rounded : Binary64 :=
      if significand = 2 * leastFullSignificand then ⟨negative, leastFullSignificand, exponent + 1⟩
      else ⟨negative, significand, exponent⟩
    if greatestExponent < rounded.exponent then none else some rounded

def ofNat (n : Nat) : Option Binary64 := ofRatio false n 1

def powerOfTen (k : Nat) : Option Binary64 := ofNat (Nat.pow 10 k)

def mul (a b : Binary64) : Option Binary64 :=
  let scale := a.exponent + b.exponent
  ofRatio (a.negative != b.negative) (a.significand * b.significand * powerOfTwo scale)
    (powerOfTwo (-scale))

def div (a b : Binary64) : Option Binary64 :=
  let scale := a.exponent - b.exponent
  ofRatio (a.negative != b.negative) (a.significand * powerOfTwo scale)
    (b.significand * powerOfTwo (-scale))

def neg (value : Binary64) : Binary64 := { value with negative := !value.negative }

def decimalStep : Nat := 308

def timesTenToThe (value : Binary64) (k : Nat) : Option Binary64 :=
  if k ≤ decimalStep then (powerOfTen k).bind value.mul
  else if value.isZero then some value
  else none

def overTenToThe (value : Binary64) (k : Nat) : Option Binary64 :=
  if k ≤ decimalStep then (powerOfTen k).bind value.div
  else if value.isZero then some value
  else ((powerOfTen decimalStep).bind value.div).bind (fun q => overTenToThe q (k - decimalStep))
  termination_by k
  decreasing_by simp [decimalStep]; omega

/-- A whole number times a power of ten: the number is rounded first, and each step of the power
rounds once more. -/
def ofDecimal (negative : Bool) (digits : Nat) (exponent : Int) : Option Binary64 :=
  let magnitude := (ofNat digits).bind (fun value =>
    if 0 ≤ exponent then value.timesTenToThe exponent.toNat
    else value.overTenToThe (-exponent).toNat)
  magnitude.map (fun value => if negative then value.neg else value)

end Binary64
end Mooring.Decimal
