/-!
Classes of characters, given by ranges of code points with both ends in them; white space in the
Unicode sense, and texts without it at their ends; hexadecimal digits.
-/
namespace ApiReview.Text

abbrev Ranges := Array (Nat × Nat)

/-- As lists they are quick to compare. -/
instance : DecidableEq Ranges := fun a b => decidable_of_iff (a.toList = b.toList) Array.toList_inj

def Ranges.contains (r : Ranges) (c : Char) : Bool :=
  r.any fun (low, high) => low ≤ c.toNat && c.toNat ≤ high

def blankRanges : Ranges := #[
  (9, 13), (32, 32), (133, 133), (160, 160), (5760, 5760), (8192, 8202), (8232, 8233),
  (8239, 8239), (8287, 8287), (12288, 12288)]

def isBlank (c : Char) : Bool := blankRanges.contains c

def trimStart (cs : List Char) : List Char := cs.dropWhile isBlank

def trimEnd (cs : List Char) : List Char := (cs.reverse.dropWhile isBlank).reverse

def trim (cs : List Char) : List Char := trimEnd (trimStart cs)

/-- The value of a hexadecimal digit, in small letters or capitals. -/
def hexValue? (c : Char) : Option Nat :=
  if '0' ≤ c ∧ c ≤ '9' then some (c.toNat - 48)
  else if 'a' ≤ c ∧ c ≤ 'f' then some (c.toNat - 87)
  else if 'A' ≤ c ∧ c ≤ 'F' then some (c.toNat - 55)
  else none

end ApiReview.Text
