import ApiReview.Lint.Run

/-! A run taken apart. Each check adds its own violations and diagnostics and nothing else, so a
report is what its rules add one after the other. -/
namespace ApiReview

namespace Collected

instance : Append Collected :=
  ⟨fun a b => ⟨a.schema ++ b.schema,a.rules ++ b.rules,a.diagnostics ++ b.diagnostics⟩⟩

@[simp] theorem schema_append (a b : Collected) : (a ++ b).schema = a.schema ++ b.schema := rfl
@[simp] theorem rules_append (a b : Collected) : (a ++ b).rules = a.rules ++ b.rules := rfl
@[simp] theorem diagnostics_append (a b : Collected) :
    (a ++ b).diagnostics = a.diagnostics ++ b.diagnostics := rfl

theorem eq_iff {a b : Collected} :
    a = b ↔ a.schema = b.schema ∧ a.rules = b.rules ∧ a.diagnostics = b.diagnostics := by
  cases a; cases b; simp

theorem append_assoc (a b c : Collected) : a ++ b ++ c = a ++ (b ++ c) := by
  simp [eq_iff]

@[simp] theorem append_empty (a : Collected) : a ++ ({} : Collected) = a := by
  simp [eq_iff]

@[simp] theorem empty_append (a : Collected) : ({} : Collected) ++ a = a := rfl

/-- All that is added, in order. -/
def concat (list : List Collected) : Collected :=
  ⟨list.flatMap (·.schema),list.flatMap (·.rules),list.flatMap (·.diagnostics)⟩

@[simp] theorem concat_nil : concat [] = {} := rfl

@[simp] theorem concat_cons (a : Collected) (list : List Collected) :
    concat (a :: list) = a ++ concat list := rfl

/-- How many violations there are of both stages. -/
def size (a : Collected) : Nat := a.schema.length + a.rules.length

@[simp] theorem size_append (a b : Collected) : (a ++ b).size = a.size + b.size := by
  simp only [size,schema_append,rules_append,List.length_append]
  omega

end Collected

namespace Check

/-- Whether a check could not run. -/
def fails (check : Check) (c : Context) : Bool :=
  match check.run c with
  | .error _ => true
  | .ok _ => false

/-- Whether a check gave findings, be it none. -/
def applies (check : Check) (c : Context) : Bool :=
  match check.run c with
  | .ok (.findings _) => true
  | _ => false

end Check

namespace RegisteredRule
variable (r : RegisteredRule) (c : Context)

/-- The violations of one check. -/
def violations (check : Check) : List Violation :=
  match check.run c with
  | .ok (.findings list) =>
    (check.kept list).map (Violation.of r.rule.id (r.severity check.severity))
  | _ => []

/-- What one check adds to a report: violations of its stage, or the reason of its failure. -/
def adds (check : Check) : Collected where
  schema := if check.stage = .schema then r.violations c check else []
  rules := if check.stage = .rules then r.violations c check else []
  diagnostics := match check.run c with
    | .error failure => [⟨r.rule.id,check.name,failure.message⟩]
    | .ok _ => []

theorem runCheck_eq (found : Collected) (tally : Tally) (check : Check) :
    r.runCheck c (found,tally) check = (found ++ r.adds c check,
      ⟨tally.failed || check.fails c,tally.applicable || check.applies c,
        tally.count + (r.adds c check).size⟩) := by
  simp only [runCheck,adds,violations,Check.fails,Check.applies,Collected.size]
  cases check.run c with
  | error failure => simp [Collected.eq_iff]
  | ok result =>
    cases result with
    | notApplicable => simp
    | findings list => cases check.stage <;> simp [Collected.eq_iff]

/-- What all checks of a rule add. -/
def addsAll (checks : List Check) : Collected := .concat (checks.map (r.adds c))

theorem foldl_runCheck (checks : List Check) (found : Collected) (tally : Tally) :
    checks.foldl (r.runCheck c) (found,tally) = (found ++ r.addsAll c checks,
      ⟨tally.failed || checks.any (·.fails c),tally.applicable || checks.any (·.applies c),
        tally.count + (r.addsAll c checks).size⟩) := by
  induction checks generalizing found tally with
  | nil => simp [addsAll,Collected.size]
  | cons check checks ih =>
    rw [List.foldl_cons,runCheck_eq,ih]
    simp only [addsAll,List.map_cons,Collected.concat_cons,Collected.append_assoc,
      Collected.size_append,List.any_cons,Bool.or_assoc,Nat.add_assoc]

/-- What a rule adds to a report; nothing unless it is enabled. -/
def contribution : Collected := if r.enabled then r.addsAll c r.rule.checks else {}

/-- How the checks of a rule fare over a context. -/
def tally : Tally :=
  ⟨r.rule.checks.any (·.fails c),r.rule.checks.any (·.applies c),
    (r.addsAll c r.rule.checks).size⟩

def outcome : RuleOutcome := if r.enabled then (r.tally c).outcome else .disabled

def summary : RuleSummary := ⟨r.rule.id,r.rule.title,r.outcome c⟩

theorem run_eq (found : Collected) : r.run c found = (found ++ r.contribution c,r.summary c) := by
  unfold run contribution summary outcome
  cases r.enabled with
  | false => simp
  | true =>
    rw [if_pos rfl,if_pos rfl,if_pos rfl,foldl_runCheck]
    simp [tally]

end RegisteredRule

namespace Registry

theorem runAll_eq (c : Context) (entries : List RegisteredRule) (found : Collected) :
    runAll c entries found =
      (found ++ .concat (entries.map (·.contribution c)),entries.map (·.summary c)) := by
  induction entries generalizing found with
  | nil => simp [runAll]
  | cons r entries ih =>
    simp only [runAll,RegisteredRule.run_eq,ih,List.map_cons,Collected.concat_cons,
      Collected.append_assoc]

/-- What all rules of a registry add. -/
def collected (r : Registry) (c : Context) : Collected := .concat (r.entries.map (·.contribution c))

theorem lintContext_collected (r : Registry) (c : Context) : r.lintContext c =
    .merge (r.collected c).schema (r.collected c).rules (r.collected c).diagnostics
      (r.entries.map (·.summary c)) := by
  simp [lintContext,runAll_eq,collected]

/-- A report is what the rules add, rule by rule, with the violations of the schema in front. -/
theorem lintContext_eq (r : Registry) (c : Context) :
    r.lintContext c =
      { violations := r.entries.flatMap (fun e => (e.contribution c).schema) ++
          r.entries.flatMap (fun e => (e.contribution c).rules)
        diagnostics := r.entries.flatMap fun e => (e.contribution c).diagnostics
        rules := r.entries.map (·.summary c) } := by
  simp [lintContext_collected,collected,Report.merge,Collected.concat,List.flatMap_map]

end Registry
end ApiReview
