import ApiReview.Decimal.Binary64

/-!
The shortest decimal that reads back as a given double, and layouts for writing it.
Among the decimals of least length the one nearest to the double is taken.
-/
namespace ApiReview.Decimal

/-- `digits * 10 ^ exponent`, the digits as a whole number. -/
structure Scientific where
  digits : Nat
  exponent : Int
  deriving DecidableEq

/-- A positive double and the reals that round to it, as fractions of one denominator. -/
structure Interval where
  low : Nat
  value : Nat
  high : Nat
  den : Nat
  closed : Bool

/-- The reals that round to a positive double. Below a power of two the gap is half as wide. -/
def Interval.of (x : Binary64) : Interval :=
  let narrow := x.mantissa = twoTo 52 ∧ x.exponent ≠ -1074
  let scale := twoTo (x.exponent - 2).toNat
  { low := (4 * x.mantissa - if narrow then 1 else 2) * scale
    value := 4 * x.mantissa * scale
    high := (4 * x.mantissa + 2) * scale
    den := twoTo (2 - x.exponent).toNat
    closed := x.mantissa % 2 = 0 }

/-- Whether `num / den`, a fraction, lies in the interval. -/
def Interval.contains (i : Interval) (num den : Nat) : Bool :=
  if i.closed then i.low * den ≤ num * i.den && num * i.den ≤ i.high * den
  else i.low * den < num * i.den && num * i.den < i.high * den

/-- The power of ten just above the value. -/
def Interval.magnitude (i : Interval) : Int :=
  ((Decimal.digits (i.value * tenTo 330 / i.den)).length : Int) - 330

/-- The better of the value's two neighbours with `count` digits, if one lies in the interval. -/
def Interval.withDigits? (i : Interval) (count : Nat) : Option Scientific :=
  let unit := i.magnitude - count
  let up := tenTo unit.toNat
  let down := tenTo (-unit).toNat
  -- the value in units of the grid is `num / den`
  let num := i.value * down
  let den := i.den * up
  let lower := num / den
  let lowerIn := i.contains (lower * up) down
  let upperIn := i.contains ((lower + 1) * up) down
  let nearLower := 2 * (num % den) < den || (2 * (num % den) == den && lower % 2 == 0)
  if lowerIn && (nearLower || !upperIn) then some ⟨lower, unit⟩
  else if upperIn then some ⟨lower + 1, unit⟩
  else none

/-- Drops zeros at the end of the digits. -/
def Scientific.trim : Nat → Scientific → Scientific
  | 0, s => s
  | n + 1, s => if s.digits ≠ 0 ∧ s.digits % 10 = 0 then trim n ⟨s.digits / 10, s.exponent + 1⟩ else s

/-- The shortest decimal of a double's magnitude; seventeen digits always suffice. -/
def shortest (x : Binary64) : Scientific :=
  if x.mantissa = 0 then ⟨0, 0⟩ else
    let i := Interval.of x
    ((((List.range 17).findSome? fun n => i.withDigits? (n + 1))).getD ⟨0, 0⟩).trim 17

/-- How a decimal is laid out. -/
structure Layout where
  /-- Least and greatest place of the point, counted from the first digit, without an exponent. -/
  places : Option (Int × Int)
  /-- Whether a whole number gets `.0`. -/
  pointZero : Bool
  /-- Whether a positive exponent has its sign. -/
  plus : Bool

private def zeros (n : Nat) : List Char := List.replicate n '0'

/-- The digits with a point after the first `point` places. -/
def positional (pointZero : Bool) (digits : List Char) (point : Int) : List Char :=
  if point ≤ 0 then '0' :: '.' :: zeros (-point).toNat ++ digits
  else
    let whole := digits.take point.toNat
    let fraction := digits.drop point.toNat
    whole ++ zeros (point.toNat - digits.length) ++
      (if fraction ≠ [] then '.' :: fraction else if pointZero then ['.', '0'] else [])

/-- The digits with a point after the first one and an exponent. -/
def exponential (plus : Bool) (digits : List Char) (point : Int) : List Char :=
  let e := point - 1
  digits.take 1 ++ (if digits.length ≤ 1 then [] else '.' :: digits.drop 1) ++ ['e'] ++
    (if plus && 0 ≤ e then ['+'] else []) ++ signedDigits e

def Layout.chars (l : Layout) (x : Binary64) : List Char :=
  let s := shortest x
  let ds := digits s.digits
  let point : Int := if s.digits = 0 then 1 else ds.length + s.exponent
  let inside := match l.places with
    | none => true
    | some (least, most) => decide (least ≤ point) && decide (point ≤ most)
  (if x.negative then ['-'] else []) ++
    if inside then positional l.pointZero ds point else exponential l.plus ds point

def Layout.text (l : Layout) (x : Binary64) : String := String.ofList (l.chars x)

/-- Always positional, whole numbers without a point. -/
def Layout.plain : Layout := ⟨none, false, false⟩

/-- Always positional, whole numbers with `.0`. -/
def Layout.plainPoint : Layout := ⟨none, true, false⟩

end ApiReview.Decimal
