import ApiReview.Proofs.Calls
import ApiReview.Rules.MediaTypes
import ApiReview.Rules.UseOpenApi

/-! Settings of one rule. In a report they show where that rule shows and nowhere else: as another
severity of its violations, or in that it has no violations and no diagnostics at all. -/
namespace ApiReview

/-- A violation, with another severity if it is one of a rule. -/
def Violation.weighed (id : String) (weight : Severity) (v : Violation) : Violation :=
  if v.ruleId = id then { v with severity := weight } else v

/-- A report in which all violations of a rule have one severity. -/
def Report.weighed (report : Report) (id : String) (weight : Severity) : Report :=
  { report with violations := report.violations.map (.weighed id weight) }

/-- The line of a rule, which is disabled if it is a certain one. -/
def RuleSummary.silenced (id : String) (line : RuleSummary) : RuleSummary :=
  if line.ruleId = id then { line with outcome := .disabled } else line

/-- A report in which nothing is said of a rule but that it is disabled. -/
def Report.silenced (report : Report) (id : String) : Report where
  violations := report.violations.filter (·.ruleId ≠ id)
  diagnostics := report.diagnostics.filter (·.ruleId ≠ id)
  rules := report.rules.map (.silenced id)

namespace Collected

def weighed (id : String) (weight : Severity) (a : Collected) : Collected :=
  { a with schema := a.schema.map (.weighed id weight), rules := a.rules.map (.weighed id weight) }

def silenced (id : String) (a : Collected) : Collected where
  schema := a.schema.filter (·.ruleId ≠ id)
  rules := a.rules.filter (·.ruleId ≠ id)
  diagnostics := a.diagnostics.filter (·.ruleId ≠ id)

section
variable (id : String) (weight : Severity)

theorem weighed_concat (list : List Collected) :
    (concat list).weighed id weight = concat (list.map (·.weighed id weight)) := by
  simp [concat,weighed,List.map_flatMap,List.flatMap_map]

theorem silenced_concat (list : List Collected) :
    (concat list).silenced id = concat (list.map (·.silenced id)) := by
  simp [concat,silenced,List.filter_flatMap,List.flatMap_map]

@[simp] theorem size_weighed (a : Collected) : (a.weighed id weight).size = a.size := by
  simp [size,weighed]

end

end Collected

namespace RegisteredRule
variable (e : RegisteredRule) (c : Context) {s : RuleSettings} {weight : Severity}

/-- The severity is set for checks with a severity of their own and without, in both stages. -/
theorem adds_weighed (severity : s.severity = some weight) (check : Check) :
    (e.under (some s)).adds c check = (e.adds c check).weighed e.rule.id weight := by
  have found : (e.under (some s)).violations c check =
      (e.violations c check).map (.weighed e.rule.id weight) := by
    simp only [violations,under,RegisteredRule.severity,severity]
    cases check.run c with
    | error failure => rfl
    | ok result =>
      cases result with
      | notApplicable => rfl
      | findings list => simp [Violation.of,Violation.weighed]
  simp only [adds,found,Collected.weighed,Collected.eq_iff]
  refine ⟨?_,?_,rfl⟩
  · split <;> rfl
  · split <;> rfl

theorem addsAll_weighed (severity : s.severity = some weight) (checks : List Check) :
    (e.under (some s)).addsAll c checks = (e.addsAll c checks).weighed e.rule.id weight := by
  rw [addsAll,addsAll,Collected.weighed_concat,List.map_map]
  exact congrArg Collected.concat (List.map_congr_left fun check _ => e.adds_weighed c severity check)

/-- An enabled rule under another severity finds what it finds, and fares as it fares. -/
theorem under_weighed (enabled : e.enabled = true) (on : s.enabled = true)
    (severity : s.severity = some weight) :
    (e.under (some s)).contribution c = (e.contribution c).weighed e.rule.id weight ∧
      (e.under (some s)).summary c = e.summary c := by
  have same : (e.under (some s)).enabled = true := on
  have all := e.addsAll_weighed c severity e.rule.checks
  refine ⟨?_,?_⟩
  · rw [contribution,contribution,if_pos same,if_pos enabled]
    exact all
  · have tally : (e.under (some s)).tally c = e.tally c := by
      have count := congrArg Collected.size all
      rw [Collected.size_weighed] at count
      exact congrArg (Tally.mk _ _) count
    rw [summary,summary,outcome,outcome,if_pos same,if_pos enabled,tally]
    rfl

theorem weighed_other {id : String} (other : e.rule.id ≠ id) (weight : Severity) :
    (e.contribution c).weighed id weight = e.contribution c := by
  have left {v : Violation} (own : v.ruleId = e.rule.id) : v.weighed id weight = v :=
    if_neg (own ▸ other)
  refine Collected.eq_iff.mpr ⟨?_,?_,rfl⟩
  · exact (List.map_congr_left fun v member => left (ruleId_of_contribution (.inl member))).trans (List.map_id _)
  · exact (List.map_congr_left fun v member => left (ruleId_of_contribution (.inr member))).trans (List.map_id _)

theorem silenced_other {id : String} (other : e.rule.id ≠ id) :
    (e.contribution c).silenced id = e.contribution c := by
  refine Collected.eq_iff.mpr ⟨?_,?_,?_⟩
  · exact List.filter_eq_self.mpr fun v member => by simpa [ruleId_of_contribution (.inl member)] using other
  · exact List.filter_eq_self.mpr fun v member => by simpa [ruleId_of_contribution (.inr member)] using other
  · exact List.filter_eq_self.mpr fun d member => by
      simpa [ruleId_of_diagnostics member] using other

theorem silenced_own : (e.contribution c).silenced e.rule.id = {} := by
  refine Collected.eq_iff.mpr ⟨?_,?_,?_⟩
  · exact List.filter_eq_nil_iff.mpr fun v member => by simp [ruleId_of_contribution (.inl member)]
  · exact List.filter_eq_nil_iff.mpr fun v member => by simp [ruleId_of_contribution (.inr member)]
  · exact List.filter_eq_nil_iff.mpr fun d member => by simp [ruleId_of_diagnostics member]

/-- A rule under settings for an id. -/
def set (id : String) (s : RuleSettings) : RegisteredRule :=
  if e.rule.id = id then e.under (some s) else e

theorem set_weighed {id : String} (enabled : e.rule.id = id → e.enabled = true)
    (on : s.enabled = true) (severity : s.severity = some weight) :
    (e.set id s).contribution c = (e.contribution c).weighed id weight ∧
      (e.set id s).summary c = e.summary c := by
  unfold set
  by_cases here : e.rule.id = id
  · rw [if_pos here,← here]
    exact e.under_weighed c (enabled here) on severity
  · rw [if_neg here]
    exact ⟨(e.weighed_other c here weight).symm,rfl⟩

theorem set_silenced (id : String) (off : s.enabled = false) :
    (e.set id s).contribution c = (e.contribution c).silenced id ∧
      (e.set id s).summary c = (e.summary c).silenced id := by
  unfold set
  by_cases here : e.rule.id = id
  · have disabled : ¬ (e.under (some s)).enabled = true := by simp [under,off]
    have nothing := e.silenced_own c
    rw [here] at nothing
    rw [if_pos here,nothing,contribution,if_neg disabled,summary,outcome,if_neg disabled]
    exact ⟨rfl,(if_pos here).symm⟩
  · rw [if_neg here]
    exact ⟨(e.silenced_other c here).symm,(if_neg here).symm⟩

end RegisteredRule

namespace Registry

/-- Where ids are apart, settings change the one rule that has the id. -/
theorem applySettings_eq_map (id : String) (s : RuleSettings) {entries : List RegisteredRule}
    (distinct : (entries.map (·.rule.id)).Nodup) : applySettings id s entries =
      entries.map (·.set id s) := by
  induction entries with
  | nil => rfl
  | cons e rest ih =>
    obtain ⟨absent,distinct⟩ := List.nodup_cons.mp distinct
    rw [applySettings,List.map_cons,RegisteredRule.set]
    by_cases here : e.rule.id = id
    · have others : rest.map (·.set id s) = rest := by
        refine (List.map_congr_left fun other inside => ?_).trans (List.map_id rest)
        exact if_neg fun same => absent (List.mem_map.mpr ⟨other,inside,same.trans here.symm⟩)
      rw [if_pos here,if_pos here,others]
      rfl
    · rw [if_neg here,if_neg here,ih distinct]

/-- Settings for one rule that is there are accepted. -/
theorem configure_only {r : Registry} {id : String} {e : RegisteredRule}
    (found : r.get? id = some e) {config : Config} {s : RuleSettings}
    (only : config.rules.entries = [(id,s)]) :
    r.configure config = (⟨applySettings id s r.entries⟩,none) := by
  rw [configure,only,configureAll,if_pos (by simp [found])]
  rfl

/-- Where each rule adds something else in one way, the whole report is changed in that way. -/
theorem lintContext_map (r : Registry) (f : RegisteredRule → RegisteredRule) (c : Context)
    (change : Collected → Collected) (line : RuleSummary → RuleSummary)
    (concat : ∀ list, change (.concat list) = .concat (list.map change))
    (parts : ∀ e ∈ r.entries, (f e).contribution c = change (e.contribution c) ∧
      (f e).summary c = line (e.summary c)) :
    (⟨r.entries.map f⟩ : Registry).lintContext c =
      .merge (change (r.collected c)).schema (change (r.collected c)).rules
        (change (r.collected c)).diagnostics ((r.entries.map (·.summary c)).map line) := by
  have added : (⟨r.entries.map f⟩ : Registry).collected c = change (r.collected c) := by
    rw [collected,collected,concat,List.map_map,List.map_map]
    exact congrArg _ (List.map_congr_left fun e member => (parts e member).1)
  have lines : (r.entries.map f).map (·.summary c) = (r.entries.map (·.summary c)).map line := by
    rw [List.map_map,List.map_map]
    exact List.map_congr_left fun e member => (parts e member).2
  rw [lintContext_collected,added,lines]

/-- Settings for one rule are settings for that rule only. With a severity, every violation of the
rule has it afterwards, and all else in the report is as before. If they disable the rule, the report
is as before without the violations and the diagnostics of the rule, and its line says so. -/
theorem settings_of_one {r : Registry} (built : r.Built) {id : String} {e : RegisteredRule}
    (found : r.get? id = some e) {config : Config} {s : RuleSettings}
    (only : config.rules.entries = [(id,s)]) (c : Context) :
    ∃ configured, r.configure config = (configured,none) ∧
      (e.enabled = true → s.enabled = true → ∀ weight, s.severity = some weight →
        configured.lintContext c = (r.lintContext c).weighed id weight) ∧
      (s.enabled = false → configured.lintContext c = (r.lintContext c).silenced id) := by
  have map := applySettings_eq_map id s built.distinct
  refine ⟨_,configure_only found only,fun enabled on weight severity => ?_,fun off => ?_⟩
  · have inForce : ∀ other ∈ r.entries, other.rule.id = id → other.enabled = true := by
      intro other member here
      have again := get?_of_mem built.distinct member
      rw [here,found] at again
      exact Option.some.inj again ▸ enabled
    have report := r.lintContext_map (·.set id s) c (.weighed id weight) (fun line => line)
      (Collected.weighed_concat id weight)
      fun other member => other.set_weighed c (inForce other member) on severity
    rw [map,report,lintContext_collected]
    simp [Report.merge,Report.weighed,Collected.weighed]
  · have report := r.lintContext_map (·.set id s) c (.silenced id) (.silenced id)
      (Collected.silenced_concat id) fun other _ => other.set_silenced c id off
    rw [map,report,lintContext_collected]
    simp [Report.merge,Report.silenced,Collected.silenced]

/-- The built-in rules, where the schema has something to say of every description. -/
def strict : Registry :=
  (empty.register (UseOpenApi.rule fun _ => .ok [⟨"not as it should be",.root⟩])).register
    MediaTypes.rule

theorem settings_of_one_strict :
    let c : Context := .ofDocument ⟨"",.object []⟩
    let r := strict.lintContext c
    strict.Built ∧ r.violations = [⟨"101",.must,"not as it should be",.root⟩] ∧
    (∃ configured, strict.configure (only "101" { severity := some .hint }) = (configured,none) ∧
      configured.lintContext c = r.weighed "101" .hint) ∧
    ∃ configured, strict.configure (only "101" { enabled := false }) = (configured,none) ∧
      configured.lintContext c = r.silenced "101" := by
  intro c r
  have built : strict.Built := (Built.empty.register _).register _
  have found : strict.get? "101" = some _ := rfl
  have hint : (only "101" { severity := some .hint }).rules.entries = [("101",_)] := rfl
  have off : (only "101" { enabled := false }).rules.entries = [("101",_)] := rfl
  obtain ⟨hinting,one,weighed,_⟩ := settings_of_one built found hint c
  obtain ⟨silent,two,_,silenced⟩ := settings_of_one built found off c
  exact ⟨built,rfl,⟨hinting,one,weighed rfl rfl .hint rfl⟩,silent,two,silenced rfl⟩

end Registry
end ApiReview
