import ApiReview.Lint.Report
import ApiReview.Document.Context
import ApiReview.Text.Quoted

/-!
Checks: functions of a document that give findings, do not apply, or fail.
-/
namespace ApiReview

/-- Why a check did not run to its end. -/
inductive CheckFailure where
  /-- An error and its causes, the outermost first. -/
  | error (chain : List String)
  /-- An abort, with its text if it has one. -/
  | abort (text : Option String)
  deriving DecidableEq

def CheckFailure.message : CheckFailure → String
  | .error chain => ": ".intercalate chain
  | .abort (some text) => "panicked: " ++ text
  | .abort none => "panicked"

inductive CheckResult where
  | notApplicable
  | findings (list : List Finding)
  deriving DecidableEq

/-- The three shapes of a check: over the tree, over the context with one finding at most,
and over the context's elements. -/
inductive CheckEntry where
  | document (run : Json → Except CheckFailure (List Finding))
  | context (run : Context → Except CheckFailure (Option Finding))
  | elements (run : Context → Except CheckFailure CheckResult)

/-- Where a check's violations stand in a report. -/
inductive Stage where
  | schema
  | rules
  deriving DecidableEq

structure Check where
  name : String
  severity : Option Severity := none
  stage : Stage := .rules
  deduplicate : Bool := false
  entry : CheckEntry

namespace Check

def run (check : Check) (c : Context) : Except CheckFailure CheckResult :=
  match check.entry with
  | .document f => (f c.root).map .findings
  | .context f => (f c).map fun found => .findings found.toList
  | .elements f => f c

/-- What the check reports of its findings. -/
def kept (check : Check) (found : List Finding) : List Finding :=
  if check.deduplicate then Finding.distinct [] found else found

/-- The check's settings, without what it does. -/
def shown (check : Check) : String :=
  let severity := match check.severity with
    | none => "None"
    | some s => "Some(" ++ s.title ++ ")"
  let stage := match check.stage with
    | .schema => "Schema"
    | .rules => "Rules"
  "Check \x7b name: " ++ Text.quoted check.name ++ ", severity: " ++ severity ++ ", stage: " ++
    stage ++ ", deduplicate: " ++ (if check.deduplicate then "true" else "false") ++ ", .. \x7d"

end Check
end ApiReview
