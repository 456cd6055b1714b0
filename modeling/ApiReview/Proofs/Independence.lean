import ApiReview.Proofs.Comprehension
import ApiReview.Rules.MediaTypes

/-! Checks beside one another. What a check does when it runs shows in its own findings, its own
diagnostic and the outcome of its own rule; everything else in a report stays as it is. -/
namespace ApiReview

/-- The place of a check: that of its rule in a registry, and its own in the rule. -/
structure Place where
  rule : Nat
  check : Nat
  deriving DecidableEq

theorem zipIdx_modify {α : Type} (f : α → α) (list : List α) (i : Nat) :
    (list.modify i f).zipIdx = list.zipIdx.map fun (a,k) => (if k = i then f a else a,k) := by
  refine List.ext_getElem? fun n => ?_
  simp only [List.getElem?_zipIdx,List.getElem?_modify,List.getElem?_map]
  cases list[n]? with
  | none => simp
  | some a => by_cases here : i = n <;> simp [here,eq_comm]

/-- The check with other doings. -/
def Check.doing (check : Check) (x : CheckEntry) : Check := { check with entry := x }

namespace Due

def doing (d : Due) (x : CheckEntry) : Due := { d with check := d.check.doing x }

end Due

namespace RegisteredRule

/-- A rule with other checks. -/
def withChecks (e : RegisteredRule) (f : List Check → List Check) : RegisteredRule :=
  { e with rule := { e.rule with checks := f e.rule.checks } }

theorem due_doing (e : RegisteredRule) (j : Nat) (x : CheckEntry) :
    (e.withChecks (·.modify j (·.doing x))).due = e.due.modify j (·.doing x) := by
  unfold due withChecks
  cases e.enabled with
  | false => simp
  | true =>
    refine List.ext_getElem? fun n => ?_
    simp only [if_true,List.getElem?_map,List.getElem?_modify]
    cases e.rule.checks[n]? with
    | none => rfl
    | some check => by_cases here : j = n <;> simp [here,Due.doing,Check.doing,severityOf]

/-- The checks of a rule that are due, with their places. -/
def placed (i : Nat) (e : RegisteredRule) : List (Place × Due) :=
  e.due.zipIdx.map fun (d,j) => (⟨i,j⟩,d)

end RegisteredRule

/-- One report has one diagnostic more than another, and in it the rule at a place has failed. -/
structure Report.AddsFailure (less more : Report) (i : Nat) (title : String) (d : Diagnostic) :
    Prop where
  violations : more.violations = less.violations
  diagnostics : ∃ before after, less.diagnostics = before ++ after ∧
    more.diagnostics = before ++ d :: after
  rules : more.rules = less.rules.set i ⟨d.ruleId,title,.failed⟩

namespace Registry
variable (r : Registry) (place : Place) (x : CheckEntry) (c : Context)

/-- The registry in which one check does something else when it runs. -/
def doing : Registry :=
  ⟨r.entries.modify place.rule fun e => e.withChecks (·.modify place.check (·.doing x))⟩

/-- The registry in which one check is missing. -/
def without : Registry :=
  ⟨r.entries.modify place.rule fun e => e.withChecks (·.eraseIdx place.check)⟩

/-- The checks that are due, with their places. -/
def placed : List (Place × Due) := r.entries.zipIdx.flatMap fun (e,i) => e.placed i

/-- What a check finds, with its place. -/
def traced (pd : Place × Due) : List (Place × Violation) := (pd.2.violations c).map (pd.1,·)

/-- The violations of a report, each with the place of the check that found it. -/
def tracedViolations : List (Place × Violation) :=
  ([.schema,.rules] : List Stage).flatMap fun stage =>
    (r.placed.filter (·.2.check.stage = stage)).flatMap (traced c)

/-- The diagnostics of a report, each with the place of the check that could not run. -/
def tracedDiagnostics : List (Place × Diagnostic) :=
  r.placed.filterMap fun (p,d) => (d.diagnostic? c).map (p,·)

theorem placed_due : r.placed.map Prod.snd = r.due := by
  have inner (i : Nat) (e : RegisteredRule) : (e.placed i).map Prod.snd = e.due := by
    simp [RegisteredRule.placed,List.map_map,Function.comp_def]
  have both : r.placed.map Prod.snd = (r.entries.zipIdx.map Prod.fst).flatMap (·.due) := by
    simp only [placed,List.map_flatMap,inner,List.flatMap_map]
  rw [both,List.zipIdx_map_fst,due]

theorem tracedViolations_items :
    (r.tracedViolations c).map Prod.snd = (r.lintContext c).violations := by
  have stages (stage : Stage) :
      ((r.placed.filter (·.2.check.stage = stage)).flatMap (traced c)).map Prod.snd =
        r.violationsAt c stage := by
    rw [violationsAt,← placed_due,List.filter_map,List.flatMap_map,List.map_flatMap]
    simp [traced,List.map_map,Function.comp_def]
  rw [lintContext_violations,tracedViolations,List.map_flatMap]
  simp only [List.flatMap_cons,List.flatMap_nil,stages,List.append_nil]

theorem tracedDiagnostics_items :
    (r.tracedDiagnostics c).map Prod.snd = (r.lintContext c).diagnostics := by
  rw [lintContext_diagnostics,← placed_due,tracedDiagnostics,List.map_filterMap,
    List.filterMap_map]
  simp [Function.comp_def,Option.map_map]

/-! What a check does is found at its own place alone. -/

theorem placed_doing : (r.doing place x).placed =
    r.placed.map fun (p,d) => (p,if p = place then d.doing x else d) := by
  have one (e : RegisteredRule) (i : Nat) :
      (if i = place.rule then e.withChecks (·.modify place.check (·.doing x)) else e).placed i =
        (e.placed i).map fun (p,d) => (p,if p = place then d.doing x else d) := by
    obtain ⟨rule,check⟩ := place
    by_cases here : i = rule
    · subst here
      simp [RegisteredRule.placed,RegisteredRule.due_doing,zipIdx_modify,Function.comp_def]
    · simp [RegisteredRule.placed,here,Function.comp_def]
  simp only [placed,doing,zipIdx_modify,List.flatMap_map,List.map_flatMap,one]

theorem others_placed :
    (r.doing place x).placed.filter (·.1 ≠ place) = r.placed.filter (·.1 ≠ place) := by
  rw [placed_doing,List.filter_map]
  refine List.map_congr_left (fun pd member => ?_) |>.trans (List.map_id _)
  have other : pd.1 ≠ place := by simpa using (List.mem_filter.mp member).2
  simp [other]

/-- What other checks find is had from the other checks alone. -/
theorem others_traced (list : List (Place × Due)) : (list.flatMap (traced c)).filter (·.1 ≠ place) =
    (list.filter (·.1 ≠ place)).flatMap (traced c) := by
  induction list with
  | nil => rfl
  | cons pd rest ih =>
    have own : (traced c pd).filter (·.1 ≠ place) = if pd.1 ≠ place then traced c pd else [] := by
      by_cases here : pd.1 = place <;> simp [traced,here]
    rw [List.flatMap_cons,List.filter_append,ih,own,List.filter_cons]
    by_cases here : pd.1 = place <;> simp [here]

theorem others_violations : (r.tracedViolations c).filter (·.1 ≠ place) =
    ([.schema,.rules] : List Stage).flatMap fun stage =>
      ((r.placed.filter (·.1 ≠ place)).filter (·.2.check.stage = stage)).flatMap (traced c) := by
  rw [tracedViolations,List.filter_flatMap]
  refine congrArg (List.flatMap · _) (funext fun stage => ?_)
  rw [others_traced,List.filter_filter,List.filter_filter]
  simp only [Bool.and_comm]

theorem others_diagnostics : (r.tracedDiagnostics c).filter (·.1 ≠ place) =
    (r.placed.filter (·.1 ≠ place)).filterMap fun (p,d) => (d.diagnostic? c).map (p,·) := by
  rw [tracedDiagnostics,List.filter_filterMap,List.filterMap_filter]
  refine congrArg (List.filterMap · _) (funext fun (p,d) => ?_)
  cases has : d.diagnostic? c <;> by_cases here : p = place <;> simp [has,here,Option.filter]

theorem rules_getElem? (i : Nat) :
    (r.lintContext c).rules[i]? = r.entries[i]?.map (·.summary c) := by
  rw [lintContext_eq,List.getElem?_map]

theorem due_modify (f : RegisteredRule → RegisteredRule) {i : Nat} {e : RegisteredRule}
    (listed : r.entries[i]? = some e) : (⟨r.entries.modify i f⟩ : Registry).due =
      (r.entries.take i).flatMap (·.due) ++ ((f e).due ++
        (r.entries.drop (i + 1)).flatMap (·.due)) := by
  obtain ⟨bound,rfl⟩ := List.getElem?_eq_some_iff.mp listed
  rw [due,List.modify_eq_take_cons_drop bound,List.flatMap_append,List.flatMap_cons]

/-- Without a check the others are due as before. -/
theorem due_without {e : RegisteredRule} {check : Check} (rule : r.entries[place.rule]? = some e)
    (inside : e.rule.checks[place.check]? = some check) (enabled : e.enabled = true) :
    ∃ before after, r.due = before ++ ⟨e.rule.id,e.severityOf check,check⟩ :: after ∧
      (r.without place).due = before ++ after := by
  obtain ⟨bound,rfl⟩ := List.getElem?_eq_some_iff.mp inside
  have all := r.due_modify id rule
  have less := r.due_modify (fun e => e.withChecks (·.eraseIdx place.check)) rule
  have own : e.due = (e.rule.checks.take place.check ++ e.rule.checks[place.check] ::
      e.rule.checks.drop (place.check + 1)).map fun check =>
        (⟨e.rule.id,e.severityOf check,check⟩ : Due) := by
    rw [RegisteredRule.due,if_pos enabled,← List.drop_eq_getElem_cons bound,List.take_append_drop]
  have rest : (e.withChecks (·.eraseIdx place.check)).due = (e.rule.checks.take place.check ++
      e.rule.checks.drop (place.check + 1)).map fun check =>
        (⟨e.rule.id,e.severityOf check,check⟩ : Due) := by
    rw [← List.eraseIdx_eq_take_drop_succ]
    exact if_pos enabled
  rw [List.modify_id,id_eq,own,List.map_append,List.map_cons,List.append_assoc,
    ← List.append_assoc,List.cons_append] at all
  rw [rest,List.map_append,List.append_assoc,← List.append_assoc] at less
  exact ⟨_,_,all,less⟩

/-- A rule without one of its checks that cannot run. -/
theorem summary_failed {e : RegisteredRule} {check : Check} {failure : CheckFailure}
    (inside : check ∈ e.rule.checks) (enabled : e.enabled = true)
    (fails : check.run c = .error failure) : e.summary c = ⟨e.rule.id,e.rule.title,.failed⟩ := by
  have some : e.rule.checks.any (·.fails c) = true :=
    List.any_eq_true.mpr ⟨check,inside,by rw [Check.fails,fails]⟩
  simp [RegisteredRule.summary,RegisteredRule.outcome,RegisteredRule.tally,Tally.outcome,enabled,some]

/-- A check that cannot run adds its diagnostic and the failure of its rule to what is reported
without it. -/
theorem lintContext_failed {e : RegisteredRule} {check : Check} {failure : CheckFailure}
    (rule : r.entries[place.rule]? = some e) (enabled : e.enabled = true)
    (inside : e.rule.checks[place.check]? = some check) (fails : check.run c = .error failure) :
    ((r.without place).lintContext c).AddsFailure (r.lintContext c) place.rule e.rule.title
      ⟨e.rule.id,check.name,failure.message⟩ := by
  obtain ⟨before,after,all,less⟩ := r.due_without place rule inside enabled
  have none : (⟨e.rule.id,e.severityOf check,check⟩ : Due).violations c = [] := by
    simp [Due.violations,Due.findings,fails]
  have one : (⟨e.rule.id,e.severityOf check,check⟩ : Due).diagnostic? c =
      some ⟨e.rule.id,check.name,failure.message⟩ := by simp [Due.diagnostic?,fails]
  have stages (stage : Stage) : r.violationsAt c stage = (r.without place).violationsAt c stage := by
    rw [violationsAt,violationsAt,all,less,List.filter_append,List.filter_append,List.filter_cons]
    by_cases here : check.stage = stage <;> simp [here,none]
  refine ⟨?_,⟨before.filterMap (·.diagnostic? c),after.filterMap (·.diagnostic? c),?_,?_⟩,?_⟩
  · rw [lintContext_violations,lintContext_violations,stages,stages]
  · rw [lintContext_diagnostics,less,List.filterMap_append]
  · rw [lintContext_diagnostics,all,List.filterMap_append,List.filterMap_cons,one]
  · have bound : place.rule < ((r.without place).lintContext c).rules.length := by
      obtain ⟨bound,_⟩ := List.getElem?_eq_some_iff.mp rule
      simpa [lintContext_eq,without] using bound
    refine List.ext_getElem? fun i => ?_
    rw [rules_getElem?,List.getElem?_set]
    by_cases here : place.rule = i
    · subst here
      rw [if_pos rfl,if_pos bound,rule]
      exact congrArg some (summary_failed c (List.mem_of_getElem? inside) enabled fails)
    · rw [if_neg here,rules_getElem?,without,List.getElem?_modify]
      simp [here]

/-- Whatever one check does when it runs, what all other checks have found is the same and in the
same order, so are their diagnostics, and so are the lines of all other rules. A check that cannot
run adds its diagnostic and the failure of its rule to what is reported without it, and nothing
else. -/
theorem checks_independent :
    (∀ s : Registry, (s.tracedViolations c).map Prod.snd = (s.lintContext c).violations ∧
      (s.tracedDiagnostics c).map Prod.snd = (s.lintContext c).diagnostics) ∧
    ((r.doing place x).tracedViolations c).filter (·.1 ≠ place) =
      (r.tracedViolations c).filter (·.1 ≠ place) ∧
    ((r.doing place x).tracedDiagnostics c).filter (·.1 ≠ place) =
      (r.tracedDiagnostics c).filter (·.1 ≠ place) ∧
    (∀ i, i ≠ place.rule →
      ((r.doing place x).lintContext c).rules[i]? = (r.lintContext c).rules[i]?) ∧
    ∀ e check failure, r.entries[place.rule]? = some e → e.enabled = true →
      e.rule.checks[place.check]? = some check → check.run c = .error failure →
      ((r.without place).lintContext c).AddsFailure (r.lintContext c) place.rule e.rule.title
        ⟨e.rule.id,check.name,failure.message⟩ := by
  refine ⟨fun s => ⟨s.tracedViolations_items c,s.tracedDiagnostics_items c⟩,?_,?_,?_,?_⟩
  · rw [others_violations,others_violations,others_placed]
  · rw [others_diagnostics,others_diagnostics,others_placed]
  · intro i other
    rw [rules_getElem?,rules_getElem?,doing,List.getElem?_modify]
    simp [Ne.symm other]
  · intro e check failure rule enabled inside fails
    exact r.lintContext_failed place c rule enabled inside fails

/-- A rule whose only check cannot run. -/
def unreadable : Rule where
  id := "read"
  title := "Read all parts"
  defaultSeverity := .must
  checks := [{ name := "parts", entry := .context fun _ => .error (.error ["part missing"]) }]

/-- It stands in front of the rule on media types here. -/
theorem checks_independent_unreadable :
    let r : Registry := ⟨[{ rule := unreadable },{ rule := MediaTypes.rule }]⟩
    let c : Context := .ofDocument ⟨"swagger: '2.0'",.object [("swagger",.string "2.0")]⟩
    unreadable.checks.map (·.fails c) = [true] ∧
    ((r.without ⟨0,0⟩).lintContext c).AddsFailure (r.lintContext c) 0 "Read all parts"
      ⟨"read","parts","part missing"⟩ := by
  intro r c
  have all := r.checks_independent ⟨0,0⟩ (.elements fun _ => .ok .notApplicable) c
  have failure : (unreadable.checks[0]).run c = .error (.error ["part missing"]) := rfl
  exact ⟨rfl,all.2.2.2.2 _ _ _ rfl rfl rfl failure⟩

end Registry
end ApiReview
