import ApiReview.Lint.Severity
import ApiReview.Pointer

/-!
What a run finds: violations in order, checks that could not run, and one line for each rule.
-/
namespace ApiReview

/-- What a check says before a rule and a severity are attached. -/
structure Finding where
  description : String
  pointer : Pointer
  deriving DecidableEq

/-- Keeps the first of equal findings. -/
def Finding.distinct : List Finding → List Finding → List Finding
  | _, [] => []
  | seen, f :: rest => if f ∈ seen then distinct seen rest else f :: distinct (f :: seen) rest

structure Violation where
  ruleId : String
  severity : Severity
  description : String
  pointer : Pointer
  deriving DecidableEq

def Violation.of (ruleId : String) (severity : Severity) (f : Finding) : Violation :=
  ⟨ruleId, severity, f.description, f.pointer⟩

/-- A check that could not run. -/
structure Diagnostic where
  ruleId : String
  check : String
  message : String
  deriving DecidableEq

def Diagnostic.text (d : Diagnostic) : String :=
  "rule " ++ d.ruleId ++ " check '" ++ d.check ++ "' failed: " ++ d.message

inductive RuleOutcome where
  | passed
  | violated (count : Nat)
  | notApplicable
  | failed
  | disabled
  deriving DecidableEq

def RuleOutcome.name : RuleOutcome → String
  | .passed => "passed"
  | .violated _ => "violated"
  | .notApplicable => "not_applicable"
  | .failed => "failed"
  | .disabled => "disabled"

structure RuleSummary where
  ruleId : String
  title : String
  outcome : RuleOutcome
  deriving DecidableEq

structure Report where
  violations : List Violation
  diagnostics : List Diagnostic
  rules : List RuleSummary
  deriving DecidableEq

namespace Report

/-- Violations of the schema come first. -/
def merge (schema rules : List Violation) (diagnostics : List Diagnostic)
    (summaries : List RuleSummary) : Report :=
  ⟨schema ++ rules, diagnostics, summaries⟩

def isClean (r : Report) : Bool := r.violations.isEmpty

def maxSeverity? (r : Report) : Option Severity :=
  r.violations.foldl (fun m v => some (m.elim v.severity (·.max v.severity))) none

/-- Whether some violation weighs as much as a threshold. -/
def hasAtLeast (r : Report) (threshold : Severity) : Bool :=
  r.maxSeverity?.any (threshold ≤ ·)

def count (r : Report) (s : Severity) : Nat := (r.violations.filter (·.severity = s)).length

def outcome? (r : Report) (id : String) : Option RuleOutcome :=
  (r.rules.find? (·.ruleId = id)).map (·.outcome)

end Report
end ApiReview
