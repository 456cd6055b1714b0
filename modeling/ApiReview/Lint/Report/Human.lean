import ApiReview.Lint.Report

/-!
A report for people. A style is put around the severity alone, so the text without
styles is the same.
-/
namespace ApiReview.Report.Human

def escape : Char := '\x1b'

/-- Switches on the style of a severity. -/
def openStyle : Severity → List Char
  | .must => [escape, '[', '3', '1', 'm', escape, '[', '1', 'm']
  | .should => [escape, '[', '3', '3', 'm', escape, '[', '1', 'm']
  | .may => [escape, '[', '3', '6', 'm', escape, '[', '1', 'm']
  | .hint => [escape, '[', '1', 'm', escape, '[', '2', 'm']

/-- Switches all styles off. -/
def closeStyle : List Char := [escape, '[', '0', 'm']

def severity (color : Bool) (s : Severity) : List Char :=
  if color then openStyle s ++ s.name.toList ++ closeStyle else s.name.toList

/-- Severity, rule and description on one line, the place on the next, and an empty line. -/
def violation (color : Bool) (v : Violation) : List Char :=
  severity color v.severity ++ '[' :: v.ruleId.toList ++ [']', ':', ' '] ++
    v.description.toList ++ '\n' :: "  --> ".toList ++ v.pointer.chars ++ ['\n', '\n']

def diagnostic (d : Diagnostic) : List Char := "tooling error: ".toList ++ d.text.toList ++ ['\n']

/-- How many violations there are of each severity that occurs, the gravest first. -/
def counts (r : Report) : List (Severity × Nat) :=
  (Severity.all.map fun s => (s, r.count s)).filter fun p => 0 < p.2

def summary (r : Report) : List Char :=
  if r.isClean then []
  else
    let parts := (counts r).map fun (s, n) => Decimal.digits n ++ ' ' :: s.name.toList
    "Found ".toList ++ Decimal.digits r.violations.length ++ " violation(s): ".toList ++
      [',', ' '].intercalate parts ++ ['\n']

def chars (color : Bool) (r : Report) : List Char :=
  r.violations.flatMap (violation color) ++ r.diagnostics.flatMap diagnostic ++ summary r

def text (color : Bool) (r : Report) : String := String.ofList (chars color r)

end ApiReview.Report.Human
