import ApiReview.Proofs.Registry

/-! Outcomes beside the rest of a report. What the line of a rule says can be read off the violations
and the diagnostics that the report has under its id, and from the checks where there are none. -/
namespace ApiReview

/-- The diagnostics that a report has of the rule of an id. -/
def Report.diagnosticsOf (report : Report) (id : String) : List Diagnostic :=
  report.diagnostics.filter (·.ruleId = id)

theorem Check.kept_eq_nil {check : Check} {found : List Finding} :
    check.kept found = [] ↔ found = [] := by
  unfold kept
  cases found with
  | nil => simp [Finding.distinct]
  | cons f rest => cases check.deduplicate <;> simp [Finding.distinct]

theorem Check.applies_iff {check : Check} {c : Context} :
    check.applies c = true ↔ ∃ list, check.run c = .ok (.findings list) := by
  unfold applies
  constructor
  · intro applies
    split at applies
    · next list run => exact ⟨list,run⟩
    · cases applies
  · rintro ⟨list,run⟩
    rw [run]

theorem Check.fails_iff {check : Check} {c : Context} :
    check.fails c = true ↔ ∃ failure, check.run c = .error failure := by
  unfold fails
  cases check.run c <;> simp

namespace Tally
variable (t : Tally)

theorem outcome_ne_disabled : t.outcome ≠ .disabled := by
  unfold outcome
  split
  · simp
  · split
    · simp
    · split <;> simp

theorem outcome_eq_failed : t.outcome = .failed ↔ t.failed = true := by
  unfold outcome
  split
  · next failed => simp [failed]
  · next ran =>
    refine iff_of_false ?_ ran
    split
    · simp
    · split <;> simp

theorem outcome_eq_violated (ran : t.failed = false) (count : Nat) :
    t.outcome = .violated count ↔ 0 < t.count ∧ count = t.count := by
  rw [outcome,if_neg (by simp [ran])]
  split
  · next some => simp [some,eq_comm]
  · next none => cases t.applicable <;> simp [none]

/-- Where nothing is found it matters whether anything was looked at. -/
theorem outcome_of_none (ran : t.failed = false) (none : t.count = 0) :
    (t.outcome = .passed ↔ t.applicable = true) ∧
      (t.outcome = .notApplicable ↔ ¬ t.applicable = true) := by
  rw [outcome,if_neg (by simp [ran]),if_neg (by simp [none])]
  cases t.applicable <;> simp

end Tally

namespace RegisteredRule
variable (e : RegisteredRule) (c : Context)

theorem violations_eq_nil {check : Check} {list : List Finding}
    (run : check.run c = .ok (.findings list)) : e.violations c check = [] ↔ list = [] := by
  simp [violations,run,Check.kept_eq_nil]

theorem size_adds (check : Check) : (e.adds c check).size = (e.violations c check).length := by
  simp only [adds,Collected.size]
  cases check.stage <;> simp

/-- Nothing is counted if and only if no check finds anything. -/
theorem size_addsAll (checks : List Check) : (e.addsAll c checks).size = 0 ↔
    ∀ check ∈ checks, e.violations c check = [] := by
  induction checks with
  | nil => simp [addsAll,Collected.size]
  | cons check rest ih =>
    have split : e.addsAll c (check :: rest) = e.adds c check ++ e.addsAll c rest := rfl
    rw [split,Collected.size_append,Nat.add_eq_zero_iff,ih,size_adds,List.length_eq_zero_iff]
    simp

/-- There is a diagnostic for each check that cannot run. -/
theorem diagnostics_addsAll (checks : List Check) :
    0 < (e.addsAll c checks).diagnostics.length ↔ checks.any (·.fails c) = true := by
  simp only [addsAll,Collected.concat,List.length_pos_iff_exists_mem,List.flatMap_map,
    List.mem_flatMap,List.any_eq_true,Check.fails_iff]
  constructor
  · rintro ⟨d,check,inside,member⟩
    obtain ⟨failure,run,_⟩ := mem_diagnostics.mp member
    exact ⟨check,inside,failure,run⟩
  · rintro ⟨check,inside,failure,run⟩
    exact ⟨_,check,inside,mem_diagnostics.mpr ⟨failure,run,rfl⟩⟩

/-- What the outcome of a rule says, beside the numbers of its violations and its diagnostics. -/
structure Agrees (violations diagnostics : Nat) (outcome : RuleOutcome) : Prop where
  disabled : outcome = .disabled ↔ e.enabled = false
  silent : e.enabled = false → violations = 0 ∧ diagnostics = 0
  failed : e.enabled = true → (outcome = .failed ↔ 0 < diagnostics)
  violated : e.enabled = true → diagnostics = 0 →
    ∀ count, outcome = .violated count ↔ 0 < violations ∧ count = violations
  passed : e.enabled = true → diagnostics = 0 → violations = 0 →
    (outcome = .passed ↔ ∃ check ∈ e.rule.checks, check.run c = .ok (.findings []))
  notApplicable : e.enabled = true → diagnostics = 0 → violations = 0 →
    (outcome = .notApplicable ↔
      ∀ check ∈ e.rule.checks, ∀ list, check.run c ≠ .ok (.findings list))

theorem agrees : e.Agrees c (e.contribution c).size (e.contribution c).diagnostics.length
    (e.outcome c) := by
  cases enabled : e.enabled with
  | false =>
    have nothing : e.contribution c = {} := by simp [contribution,enabled]
    have outcome : e.outcome c = .disabled := by simp [outcome,enabled]
    rw [nothing,outcome]
    constructor <;> simp [enabled,Collected.size]
  | true =>
    have all : e.contribution c = e.addsAll c e.rule.checks := if_pos enabled
    have outcome : e.outcome c = (e.tally c).outcome := if_pos enabled
    have failed : (e.tally c).failed = true ↔ 0 < (e.contribution c).diagnostics.length := by
      rw [all]
      exact (e.diagnostics_addsAll c e.rule.checks).symm
    have count : (e.tally c).count = (e.contribution c).size := by rw [all,tally]
    have applicable : (e.tally c).applicable = true ↔
        ∃ check ∈ e.rule.checks, ∃ list, check.run c = .ok (.findings list) := by
      simp only [tally,List.any_eq_true,Check.applies_iff]
    have empty (none : (e.contribution c).size = 0) {check : Check} (inside : check ∈ e.rule.checks)
        {list : List Finding} (run : check.run c = .ok (.findings list)) : list = [] := by
      rw [all,size_addsAll] at none
      exact (e.violations_eq_nil c run).mp (none check inside)
    have ran (none : (e.contribution c).diagnostics.length = 0) : (e.tally c).failed = false := by
      refine Bool.eq_false_iff.mpr fun bad => ?_
      have some := failed.mp bad
      omega
    rw [outcome]
    refine ⟨?_,?_,fun _ => ?_,fun _ none k => ?_,fun _ none zero => ?_,fun _ none zero => ?_⟩
    · simp [enabled,Tally.outcome_ne_disabled]
    · simp [enabled]
    · rw [Tally.outcome_eq_failed,failed]
    · rw [Tally.outcome_eq_violated _ (ran none),count]
    · rw [((e.tally c).outcome_of_none (ran none) (count.trans zero)).1,applicable]
      constructor
      · rintro ⟨check,inside,list,run⟩
        obtain rfl := empty zero inside run
        exact ⟨check,inside,run⟩
      · rintro ⟨check,inside,run⟩
        exact ⟨check,inside,[],run⟩
    · rw [((e.tally c).outcome_of_none (ran none) (count.trans zero)).2,applicable]
      constructor
      · intro never check inside list run
        exact never ⟨check,inside,list,run⟩
      · rintro never ⟨check,inside,list,run⟩
        exact never check inside list run

end RegisteredRule

namespace Registry
variable {r : Registry} (c : Context) {id : String} {e : RegisteredRule}

theorem diagnosticsOf_lintContext (built : r.Built) (found : r.get? id = some e) :
    (r.lintContext c).diagnosticsOf id = (e.contribution c).diagnostics := by
  obtain ⟨member,rfl⟩ := get?_some found
  rw [Report.diagnosticsOf,lintContext_eq]
  exact filter_flatMap_id Diagnostic.ruleId (fun e => (e.contribution c).diagnostics)
    (fun _ _ inside => RegisteredRule.ruleId_of_diagnostics inside) built.distinct member

/-- A rule has one line in a report. -/
theorem rules_lintContext (built : r.Built) (found : r.get? id = some e) :
    (r.lintContext c).rules.filter (·.ruleId = id) = [e.summary c] := by
  obtain ⟨member,rfl⟩ := get?_some found
  have lines : (r.lintContext c).rules = r.entries.flatMap fun e => [e.summary c] := by
    rw [lintContext_eq,List.map_eq_flatMap]
  rw [lines]
  exact filter_flatMap_id RuleSummary.ruleId (fun e => [e.summary c])
    (fun e s inside => by rw [List.mem_singleton.mp inside]; rfl) built.distinct member

/-- The outcome of a rule, the number of its violations and the number of its diagnostics agree in
every report, and no violation or diagnostic is left over. -/
theorem outcomes_agree (built : r.Built) :
    (∀ v ∈ (r.lintContext c).violations, ∃ e, r.get? v.ruleId = some e) ∧
    (∀ d ∈ (r.lintContext c).diagnostics, ∃ e, r.get? d.ruleId = some e) ∧
    ∀ id e, r.get? id = some e → ∃ outcome,
      (r.lintContext c).rules.filter (·.ruleId = id) = [⟨id,e.rule.title,outcome⟩] ∧
      (r.lintContext c).outcome? id = some outcome ∧
      e.Agrees c ((r.lintContext c).violationsOf id).length
        ((r.lintContext c).diagnosticsOf id).length outcome := by
  refine ⟨fun v member => ?_,fun d member => ?_,fun id e found => ⟨e.outcome c,?_,?_,?_⟩⟩
  · obtain ⟨e,inside,_,check,_,member⟩ := mem_violations.mp member
    exact ⟨e,RegisteredRule.ruleId_of_violations member ▸ get?_of_mem built.distinct inside⟩
  · rw [lintContext_eq] at member
    obtain ⟨e,inside,member⟩ := List.mem_flatMap.mp member
    exact ⟨e,RegisteredRule.ruleId_of_diagnostics member ▸ get?_of_mem built.distinct inside⟩
  · rw [rules_lintContext c built found,RegisteredRule.summary,(get?_some found).2]
  · rw [outcome?_lintContext,found,Option.map_some]
  · have agrees := e.agrees c
    rwa [Collected.size,← List.length_append,← violationsOf_lintContext built c found,
      ← diagnosticsOf_lintContext c built found] at agrees

/-- A rule that finds one thing twice. -/
def repeating : Rule where
  id := "twice"
  title := "Say it once"
  defaultSeverity := .may
  checks := [
    { name := "all", deduplicate := true
      entry := .document fun _ => .ok [⟨"again",.root⟩,⟨"again",.root⟩] }]

/-- A rule with a check that finds something and one that cannot run. -/
def breaking : Rule where
  id := "half"
  title := "Look at both halves"
  defaultSeverity := .may
  checks := [
    { name := "left", entry := .context fun _ => .ok (some ⟨"again",.root⟩) },
    { name := "right", entry := .context fun _ => .error (.abort none) }]

theorem outcomes_agree_breaking :
    let r := (empty.register repeating).register breaking
    let c : Context := .ofDocument ⟨"",.object []⟩
    r.Built ∧ (r.lintContext c).outcome? "twice" = some (.violated 1) ∧
      (r.lintContext c).outcome? "half" = some .failed ∧
      ((r.lintContext c).violationsOf "half").length = 1 := by
  intro r c
  have built : r.Built := (Built.empty.register repeating).register breaking
  obtain ⟨_,_,all⟩ := outcomes_agree c built
  obtain ⟨one,_,first,counted⟩ := all "twice" { rule := repeating } rfl
  obtain ⟨two,_,second,failed⟩ := all "half" { rule := breaking } rfl
  have violated : one = .violated 1 := (counted.violated rfl rfl 1).mpr ⟨by decide,rfl⟩
  have failure : two = .failed := (failed.failed rfl).mpr (by decide)
  exact ⟨built,violated ▸ first,failure ▸ second,rfl⟩

end Registry
end ApiReview
