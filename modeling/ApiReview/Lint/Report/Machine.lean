import ApiReview.Lint.Report
import ApiReview.Json.Printer

/-!
A report as a JSON value, and its text with a line for each member.
-/
namespace ApiReview.Report.Machine

def count (n : Nat) : Json := .int n

def segment : Segment → Json
  | .key name => .string name
  | .index i => count i

def segments (p : Pointer) : Json := .array (p.segments.map segment)

def violation (v : Violation) : Json :=
  .object [
    ("rule_id", .string v.ruleId),
    ("severity", .string v.severity.name),
    ("description", .string v.description),
    ("pointer", .string v.pointer.text),
    ("segments", segments v.pointer)]

def diagnostic (d : Diagnostic) : Json :=
  .object [
    ("rule_id", .string d.ruleId),
    ("check", .string d.check),
    ("message", .string d.message)]

def outcome (o : RuleOutcome) : Json :=
  .object (("status", .string o.name) :: match o with
    | .violated n => [("count", count n)]
    | _ => [])

def rule (s : RuleSummary) : Json :=
  .object [
    ("rule_id", .string s.ruleId),
    ("title", .string s.title),
    ("outcome", outcome s.outcome)]

def summary (r : Report) : Json :=
  .object [
    ("total", count r.violations.length),
    ("must", count (r.count .must)),
    ("should", count (r.count .should)),
    ("may", count (r.count .may)),
    ("hint", count (r.count .hint)),
    ("tooling_errors", count r.diagnostics.length)]

def json (r : Report) : Json :=
  .object [
    ("violations", .array (r.violations.map violation)),
    ("diagnostics", .array (r.diagnostics.map diagnostic)),
    ("rules", .array (r.rules.map rule)),
    ("summary", summary r)]

def text (r : Report) : String := (json r).indented ⟨2, false⟩ ++ "\n"

end ApiReview.Report.Machine
