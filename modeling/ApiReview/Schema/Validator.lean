import ApiReview.Schema.Faults
import ApiReview.Lint.Report

/-!
Validators: a schema with the table that its references point into. References are followed
a number of times that grows with the table and with how deeply the document is nested; a
schema whose references do not run in a circle at one value never needs more. One whose
references do run in such a circle has no verdict: an evaluator that goes on would not come to an
end, and here the rounds run out, with nothing found to be wrong.
-/
namespace ApiReview
namespace Schema

structure Validator where
  root : Schema
  table : Array Schema

namespace Validator

def target (table : Array Schema) (i : Nat) : Schema := table[i]?.getD .everything

/-- The verdict of a place of the table, with references followed up to `n` times. Where more would
be needed the value passes; that there is no end then is said by `Validator.rounds`. -/
def acceptsWithin (table : Array Schema) : Nat → Nat → Json → Bool
  | 0, _, _ => true
  | n + 1, i, v => (target table i).accepts (acceptsWithin table n) v

/-- The faults that a place of the table finds, with references followed up to `n` times. Where more
would be needed nothing is found. -/
def faultsWithin (table : Array Schema) : Nat → Nat → Pointer → Json → List Fault
  | 0, _, _, _ => []
  | n + 1, i, here, v =>
    (target table i).faults ⟨acceptsWithin table n, faultsWithin table n⟩ here v

/-- How often references are followed in a document. Whoever follows one that often has met a place
of the table twice at one value, which goes on for ever. -/
def rounds (validator : Validator) (document : Json) : Nat :=
  (validator.table.size + 1) * (document.depth + 1)

def accepts (validator : Validator) (document : Json) : Bool :=
  validator.root.accepts (acceptsWithin validator.table (validator.rounds document)) document

def faults (validator : Validator) (document : Json) : List Fault :=
  let n := validator.rounds document
  validator.root.faults ⟨acceptsWithin validator.table n, faultsWithin validator.table n⟩
    .root document

/-- Faults as they are reported. A fault's place is known by its text, which is read again for the
document; a text that is none would stand for the root. -/
def findings (validator : Validator) (document : Json) : List Finding :=
  (validator.faults document).map fun f =>
    ⟨f.failure.message, (Pointer.parseAgainst? f.place.text document).getD .root⟩

end Validator
end Schema
end ApiReview
