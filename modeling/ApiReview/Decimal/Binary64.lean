import ApiReview.Decimal.Digits

/-!
Finite doubles as exact values. Every operation computes a rational number and
rounds it once, a half to the even neighbour, so nothing here rests on the
machine's floating point.
-/
namespace ApiReview

/-- The one way to write a finite double: 53 significant bits, fewer only at the least exponent. -/
def Canonical (mantissa : Nat) (exponent : Int) : Prop :=
  mantissa < twoTo 53 ∧ -1074 ≤ exponent ∧ exponent ≤ 971 ∧ (twoTo 52 ≤ mantissa ∨ exponent = -1074)

instance (m : Nat) (e : Int) : Decidable (Canonical m e) := by unfold Canonical; infer_instance

/-- A finite double: `mantissa * 2 ^ exponent` under a sign. Zero has both signs. -/
structure Binary64 where
  negative : Bool
  mantissa : Nat
  exponent : Int
  canonical : Canonical mantissa exponent
  deriving DecidableEq

namespace Binary64

def zero (negative : Bool) : Binary64 := ⟨negative, 0, -1074, by decide⟩

/-- `num / den` to the nearest whole number, a half to the even neighbour. -/
def roundDiv (num den : Nat) : Nat :=
  let q := num / den
  let r := num % den
  if 2 * r < den then q else if den < 2 * r then q + 1 else q + q % 2

/-- The exponent at which `num / den` has 53 significant bits, but not below the least one. -/
def exponentOf (num den : Nat) : Int :=
  let gap : Int := (num.log2 : Int) - den.log2
  let below :=
    if 0 ≤ gap then num < den * twoTo gap.toNat else num * twoTo (-gap).toNat < den
  max (-1074) (if below then gap - 53 else gap - 52)

/-- The double nearest to `num / den` under a sign; none when that is beyond the largest one. -/
def ofRatio? (negative : Bool) (num den : Nat) : Option Binary64 :=
  if num = 0 then some (zero negative) else
    let e := exponentOf num den
    let m := if 0 ≤ e then roundDiv num (den * twoTo e.toNat)
      else roundDiv (num * twoTo (-e).toNat) den
    let (m, e) := if m = twoTo 53 then (twoTo 52, e + 1) else (m, e)
    if h : Canonical m e then some ⟨negative, m, e, h⟩ else none

def isZero (x : Binary64) : Bool := x.mantissa == 0

/-- The magnitude as a fraction: numerator and denominator. -/
def ratio (x : Binary64) : Nat × Nat :=
  if 0 ≤ x.exponent then (x.mantissa * twoTo x.exponent.toNat, 1)
  else (x.mantissa, twoTo (-x.exponent).toNat)

/-- The value counted in the least positive double, `2 ^ -1074`. -/
def units (x : Binary64) : Int :=
  let magnitude := x.mantissa * twoTo (x.exponent + 1074).toNat
  if x.negative then -magnitude else magnitude

def mul? (x y : Binary64) : Option Binary64 :=
  ofRatio? (x.negative != y.negative) (x.ratio.1 * y.ratio.1) (x.ratio.2 * y.ratio.2)

/-- The quotient; none when it is too large or the divisor is zero. -/
def div? (x y : Binary64) : Option Binary64 :=
  if y.isZero then none
  else ofRatio? (x.negative != y.negative) (x.ratio.1 * y.ratio.2) (x.ratio.2 * y.ratio.1)

/-- The double nearest to a whole number. -/
def ofInt? (i : Int) : Option Binary64 := ofRatio? (decide (i < 0)) i.natAbs 1

/-- The double nearest to `significand * 10 ^ exponent`; a value far out of reach is not computed. -/
def ofDecimal? (negative : Bool) (significand : Nat) (exponent : Int) : Option Binary64 :=
  if significand = 0 then some (zero negative)
  else
    let magnitude : Int := exponent + (significand.log2 / 4 : Nat)
    if 400 < magnitude then none
    else if exponent + (significand.log2 : Int) < -400 then some (zero negative)
    else if 0 ≤ exponent then ofRatio? negative (significand * tenTo exponent.toNat) 1
    else ofRatio? negative significand (tenTo (-exponent).toNat)

/-- Whether the value is a whole number. -/
def isWhole (x : Binary64) : Bool := x.units % twoTo 1074 == 0

end Binary64
end ApiReview
