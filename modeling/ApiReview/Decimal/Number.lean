import ApiReview.Decimal.Binary64

/-!
Numbers as documents hold them.
-/
namespace ApiReview

/-- A whole number of a signed or unsigned 64-bit word, or a finite double. -/
inductive Number where
  | integer (value : Int) (fits : FitsWord value)
  | float (value : Binary64)
  deriving DecidableEq

namespace Number

/-- The exact value counted in the least positive double. -/
def units : Number → Int
  | .integer i _ => i * twoTo 1074
  | .float x => x.units

/-- The nearest double, for arithmetic that is done in doubles. -/
def toBinary64 : Number → Binary64
  | .integer i _ => (Binary64.ofInt? i).getD (.zero false)
  | .float x => x

/-- Equal as numbers, across the two kinds. -/
def same (a b : Number) : Bool := a.units == b.units

end Number

end ApiReview
