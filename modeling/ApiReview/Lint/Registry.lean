import ApiReview.Lint.Check
import ApiReview.Config.Basic

/-!
Rules in the order of their first registration, each with its configured state.
-/
namespace ApiReview

structure Rule where
  id : String
  title : String
  defaultSeverity : Severity
  checks : List Check

/-- A rule, whether it runs, and the severity that overrides all others. -/
structure RegisteredRule where
  rule : Rule
  enabled : Bool := true
  override : Option Severity := none

/-- The severity that a check reports with: the override, else its own, else the rule's. -/
def RegisteredRule.severity (r : RegisteredRule) (check : Option Severity) : Severity :=
  (r.override <|> check).getD r.rule.defaultSeverity

structure Registry where
  entries : List RegisteredRule

namespace Registry

def empty : Registry := ⟨[]⟩

/-- A rule with the id of an earlier one takes its place, with a fresh state. -/
def registerEntry (rule : Rule) : List RegisteredRule → List RegisteredRule
  | [] => [{ rule }]
  | e :: rest => if e.rule.id = rule.id then { rule } :: rest else e :: registerEntry rule rest

def register (r : Registry) (rule : Rule) : Registry := ⟨registerEntry rule r.entries⟩

def get? (r : Registry) (id : String) : Option RegisteredRule :=
  r.entries.find? (·.rule.id = id)

/-- Applies settings to the rule of an id. -/
def applySettings (id : String) (s : RuleSettings) : List RegisteredRule → List RegisteredRule
  | [] => []
  | e :: rest =>
    if e.rule.id = id then { e with enabled := s.enabled, override := s.severity } :: rest
    else e :: applySettings id s rest

/-- Applies settings one after the other. It stops at the first id that no rule has, which it
gives; the settings before that one stay applied. -/
def configureAll : List (String × RuleSettings) → Registry → Registry × Option String
  | [], r => (r, none)
  | (id, s) :: rest, r =>
    if (r.get? id).isSome then configureAll rest ⟨applySettings id s r.entries⟩
    else (r, some id)

/-- Applies the settings of all configured rules, in the order of their ids. -/
def configure (r : Registry) (config : Config) : Registry × Option String :=
  configureAll config.rules.entries r

end Registry
end ApiReview
