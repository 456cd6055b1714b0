import ApiReview.Lint.Registry

/-!
A registry run over a document. Every check of every enabled rule runs, whatever the others do.
-/
namespace ApiReview

/-- What the rules have added to a report so far. -/
structure Collected where
  schema : List Violation := []
  rules : List Violation := []
  diagnostics : List Diagnostic := []

/-- How the checks of one rule fared so far. -/
structure Tally where
  failed : Bool := false
  applicable : Bool := false
  count : Nat := 0

def Tally.outcome (t : Tally) : RuleOutcome :=
  if t.failed then .failed
  else if 0 < t.count then .violated t.count
  else if t.applicable then .passed
  else .notApplicable

namespace RegisteredRule

/-- Runs one check and adds what it says. -/
def runCheck (r : RegisteredRule) (c : Context) (state : Collected × Tally) (check : Check) :
    Collected × Tally :=
  let (found, tally) := state
  match check.run c with
  | .ok .notApplicable => (found, tally)
  | .ok (.findings list) =>
    let violations := (check.kept list).map (Violation.of r.rule.id (r.severity check.severity))
    let tally := { tally with applicable := true, count := tally.count + violations.length }
    match check.stage with
    | .schema => ({ found with schema := found.schema ++ violations }, tally)
    | .rules => ({ found with rules := found.rules ++ violations }, tally)
  | .error failure =>
    ({ found with
        diagnostics := found.diagnostics ++ [⟨r.rule.id, check.name, failure.message⟩] },
      { tally with failed := true })

/-- Runs all checks of a rule that is enabled. -/
def run (r : RegisteredRule) (c : Context) (found : Collected) : Collected × RuleSummary :=
  if r.enabled then
    let (found, tally) := r.rule.checks.foldl (r.runCheck c) (found, {})
    (found, ⟨r.rule.id, r.rule.title, tally.outcome⟩)
  else (found, ⟨r.rule.id, r.rule.title, .disabled⟩)

end RegisteredRule

namespace Registry

def runAll (c : Context) : List RegisteredRule → Collected → Collected × List RuleSummary
  | [], found => (found, [])
  | r :: rest, found =>
    let (found, summary) := r.run c found
    let (found, summaries) := runAll c rest found
    (found, summary :: summaries)

def lintContext (r : Registry) (c : Context) : Report :=
  let (found, summaries) := runAll c r.entries {}
  .merge found.schema found.rules found.diagnostics summaries

def lint (r : Registry) (d : Document) : Report := r.lintContext (.ofDocument d)

end Registry
end ApiReview
