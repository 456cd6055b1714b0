/-!
How much a violation weighs.
-/
namespace ApiReview

inductive Severity where
  | hint
  | may
  | should
  | must
  deriving DecidableEq

namespace Severity

/-- The gravest first. -/
def all : List Severity := [.must, .should, .may, .hint]

def rank : Severity → Nat
  | .hint => 0
  | .may => 1
  | .should => 2
  | .must => 3

instance : LE Severity := ⟨fun a b => a.rank ≤ b.rank⟩
instance : LT Severity := ⟨fun a b => a.rank < b.rank⟩
instance (a b : Severity) : Decidable (a ≤ b) := inferInstanceAs (Decidable (a.rank ≤ b.rank))
instance (a b : Severity) : Decidable (a < b) := inferInstanceAs (Decidable (a.rank < b.rank))

def name : Severity → String
  | .hint => "hint"
  | .may => "may"
  | .should => "should"
  | .must => "must"

/-- The name with a capital letter. -/
def title : Severity → String
  | .hint => "Hint"
  | .may => "May"
  | .should => "Should"
  | .must => "Must"

def ofName? (s : String) : Option Severity := all.find? (·.name = s)

/-- A name in any case of the letters. -/
def parse? (s : String) : Option Severity := ofName? (s.map Char.toLower)

/-- What is said of a text that names no severity. -/
def unknownMessage (s : String) : String :=
  "invalid severity '" ++ s.map Char.toLower ++ "' (expected must, should, may or hint)"

/-- The graver of two. -/
def max (a b : Severity) : Severity := if a ≤ b then b else a

end Severity
end ApiReview
