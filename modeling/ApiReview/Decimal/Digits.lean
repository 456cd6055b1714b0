/-!
Whole numbers in decimal: `digits` writes one, `value` reads a run of digits. Beside them powers of
two and of ten, and the whole numbers that fit a word.
-/
namespace ApiReview

/-- Two to the power `n`. -/
def twoTo (n : Nat) : Nat := Nat.pow 2 n

/-- Ten to the power `n`. -/
def tenTo (n : Nat) : Nat := Nat.pow 10 n

/-- A whole number of a 64-bit word, from the least of a signed one to the greatest of an
unsigned one. -/
def FitsWord (i : Int) : Prop := -9223372036854775808 ≤ i ∧ i < 18446744073709551616

instance (i : Int) : Decidable (FitsWord i) := by unfold FitsWord; infer_instance

namespace Decimal

/-- The character of a digit below ten. -/
def digit (n : Nat) : Char := Char.ofNat (48 + n)

/-- Decimal digits without leading zeros; zero is a single `0`. -/
def digits (n : Nat) : List Char :=
  if n < 10 then [digit n] else digits (n / 10) ++ [digit (n % 10)]
termination_by n
decreasing_by omega

def isDigit (c : Char) : Bool := '0' ≤ c && c ≤ '9'

def digitValue (c : Char) : Nat := c.toNat - 48

/-- The number that a run of digits denotes. -/
def value (cs : List Char) : Nat := cs.foldl (fun n c => 10 * n + digitValue c) 0

/-- Digits with a minus sign in front of a negative number. -/
def signedDigits (i : Int) : List Char :=
  if i < 0 then '-' :: digits i.natAbs else digits i.natAbs

def text (n : Nat) : String := String.ofList (digits n)

def signedText (i : Int) : String := String.ofList (signedDigits i)

theorem digitValue_digit {n : Nat} (h : n < 10) : digitValue (digit n) = n := by
  have : ∀ m < 10, digitValue (digit m) = m := by decide
  exact this n h

theorem isDigit_digit {n : Nat} (h : n < 10) : isDigit (digit n) = true := by
  have : ∀ m < 10, isDigit (digit m) = true := by decide
  exact this n h

/-- Reading what was written gives the number back. -/
theorem value_digits (n : Nat) : value (digits n) = n := by
  induction n using Nat.strongRecOn with
  | _ n ih =>
    rw [digits]
    split
    · next h => simp [value, digitValue_digit h]
    · next h =>
      have half := ih (n / 10) (by omega)
      have last := digitValue_digit (n := n % 10) (by omega)
      simp only [value] at half
      simp only [value, List.foldl_append, half, List.foldl_cons, List.foldl_nil, last]
      omega

theorem isDigit_of_mem_digits {n : Nat} {c : Char} (h : c ∈ digits n) : isDigit c = true := by
  induction n using Nat.strongRecOn with
  | _ n ih =>
    rw [digits] at h
    split at h
    · next small => simp at h; exact h ▸ isDigit_digit small
    · next large =>
      rcases List.mem_append.1 h with h | h
      · exact ih (n / 10) (by omega) h
      · simp at h; exact h ▸ isDigit_digit (by omega)

end Decimal
end ApiReview
