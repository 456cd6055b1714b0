import ApiReview.Proofs.Distinct
import ApiReview.Proofs.Run

/-! Reports from checks. A run adds to several lists at once, but its report can be written down
check by check: those that are due, in order, each with what it says by itself. -/
namespace ApiReview

namespace Finding

/-- The findings that are new where they stand. -/
def firstUses (list : List Finding) : List Finding :=
  list.zipIdx.filterMap fun (f,i) => if f ∈ list.take i then none else some f

theorem distinct_eq_firstUses (list : List Finding) : distinct [] list = firstUses list := by
  rw [distinct_eq_filter,firstUses,← List.filterMap_eq_map,← List.filterMap_eq_filter,
    List.filterMap_filterMap]
  refine congrArg (List.filterMap · list.zipIdx) (funext fun (f,i) => ?_)
  by_cases old : f ∈ list.take i <;> simp [old]

end Finding

/-- A check that has its turn in a run, with the id that it reports under and its severity. -/
structure Due where
  ruleId : String
  severity : Severity
  check : Check

namespace Due
variable (d : Due) (c : Context)

/-- What the check finds, without repetition where it asks for that. -/
def findings : List Finding :=
  match d.check.run c with
  | .ok (.findings list) => if d.check.deduplicate then Finding.firstUses list else list
  | _ => []

def violations : List Violation :=
  (d.findings c).map fun f => ⟨d.ruleId,d.severity,f.description,f.pointer⟩

/-- Why the check could not run, if it could not. -/
def diagnostic? : Option Diagnostic :=
  match d.check.run c with
  | .error failure => some ⟨d.ruleId,d.check.name,failure.message⟩
  | .ok _ => none

end Due

namespace RegisteredRule

/-- The severity for a check: the one that is set for the rule, else the check's own, else the one
of the rule. -/
def severityOf (e : RegisteredRule) (check : Check) : Severity :=
  match e.override,check.severity with
  | some s,_ => s
  | none,some s => s
  | none,none => e.rule.defaultSeverity

/-- The checks of a rule, none unless it is enabled. -/
def due (e : RegisteredRule) : List Due :=
  if e.enabled then e.rule.checks.map fun check => ⟨e.rule.id,e.severityOf check,check⟩ else []

theorem severityOf_eq (e : RegisteredRule) (check : Check) :
    e.severityOf check = e.severity check.severity := by
  unfold severityOf severity
  cases e.override <;> cases check.severity <;> rfl

theorem violations_due (e : RegisteredRule) (c : Context) (check : Check) :
    (⟨e.rule.id,e.severityOf check,check⟩ : Due).violations c = e.violations c check := by
  unfold Due.violations Due.findings RegisteredRule.violations Check.kept
  simp only [severityOf_eq,← Finding.distinct_eq_firstUses]
  cases check.run c with
  | error _ => rfl
  | ok result => cases result <;> rfl

/-- The violations of one stage that a rule adds are those of its checks of that stage. -/
theorem contribution_violations (e : RegisteredRule) (c : Context) :
    (e.contribution c).schema = (e.due.filter (·.check.stage = .schema)).flatMap (·.violations c) ∧
    (e.contribution c).rules = (e.due.filter (·.check.stage = .rules)).flatMap (·.violations c) := by
  unfold contribution due
  cases e.enabled with
  | false => exact ⟨rfl,rfl⟩
  | true =>
    simp only [if_true,addsAll,Collected.concat]
    induction e.rule.checks with
    | nil => exact ⟨rfl,rfl⟩
    | cons check rest ih =>
      simp only [List.map_cons,List.flatMap_cons,List.filter_cons,ih.1,ih.2,adds]
      cases stage : check.stage <;> simp [violations_due]

theorem contribution_diagnostics (e : RegisteredRule) (c : Context) :
    (e.contribution c).diagnostics = e.due.filterMap (·.diagnostic? c) := by
  unfold contribution due
  cases e.enabled with
  | false => rfl
  | true =>
    simp only [if_true,addsAll,Collected.concat]
    induction e.rule.checks with
    | nil => rfl
    | cons check rest ih =>
      simp only [List.map_cons,List.flatMap_cons,List.filterMap_cons,ih,adds,Due.diagnostic?]
      cases check.run c <;> rfl

end RegisteredRule

namespace Registry

/-- The checks that have their turn in a run: rule by rule, and in the order of each rule. -/
def due (r : Registry) : List Due := r.entries.flatMap (·.due)

/-- The violations of a stage, check by check. -/
def violationsAt (r : Registry) (c : Context) (stage : Stage) : List Violation :=
  (r.due.filter (·.check.stage = stage)).flatMap (·.violations c)

theorem violationsAt_eq (r : Registry) (c : Context) (stage : Stage) : r.violationsAt c stage =
    r.entries.flatMap fun e => (e.due.filter (·.check.stage = stage)).flatMap (·.violations c) := by
  rw [violationsAt,due,List.filter_flatMap,List.flatMap_assoc]

theorem lintContext_violations (r : Registry) (c : Context) :
    (r.lintContext c).violations = r.violationsAt c .schema ++ r.violationsAt c .rules := by
  simp only [lintContext_eq,violationsAt_eq,(RegisteredRule.contribution_violations _ c).1,
    (RegisteredRule.contribution_violations _ c).2]

theorem lintContext_diagnostics (r : Registry) (c : Context) :
    (r.lintContext c).diagnostics = r.due.filterMap (·.diagnostic? c) := by
  simp only [lintContext_eq,due,List.filterMap_flatMap,RegisteredRule.contribution_diagnostics]

end Registry
end ApiReview
