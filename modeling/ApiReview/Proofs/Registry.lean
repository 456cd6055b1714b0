import ApiReview.Proofs.Run
import ApiReview.Rules.Builtin

/-! Registries. However one came about, its rules have ids of their own, so what a report says
under an id is what one rule adds to it. -/
namespace ApiReview

/-- The violations that a report has of the rule of an id. -/
def Report.violationsOf (report : Report) (id : String) : List Violation :=
  report.violations.filter (·.ruleId = id)

namespace RegisteredRule

theorem ruleId_of_violations {r : RegisteredRule} {c : Context} {check : Check} {v : Violation}
    (member : v ∈ r.violations c check) : v.ruleId = r.rule.id := by
  unfold violations at member
  split at member
  · obtain ⟨_,_,rfl⟩ := List.mem_map.mp member
    rfl
  · cases member

theorem mem_contribution {r : RegisteredRule} {c : Context} {v : Violation} :
    v ∈ (r.contribution c).schema ∨ v ∈ (r.contribution c).rules ↔
      r.enabled = true ∧ ∃ check ∈ r.rule.checks, v ∈ r.violations c check := by
  unfold contribution
  cases r.enabled with
  | false => simp
  | true =>
    simp only [addsAll,Collected.concat,adds,List.flatMap_map,List.mem_flatMap,if_true,true_and]
    constructor
    · rintro (⟨check,inside,member⟩ | ⟨check,inside,member⟩)
      all_goals
        split at member
        · exact ⟨check,inside,member⟩
        · cases member
    · rintro ⟨check,inside,member⟩
      cases stage : check.stage with
      | schema => exact .inl ⟨check,inside,by simpa [stage] using member⟩
      | rules => exact .inr ⟨check,inside,by simpa [stage] using member⟩

theorem ruleId_of_contribution {r : RegisteredRule} {c : Context} {v : Violation}
    (member : v ∈ (r.contribution c).schema ∨ v ∈ (r.contribution c).rules) :
    v.ruleId = r.rule.id := by
  obtain ⟨_,_,_,member⟩ := mem_contribution.mp member
  exact ruleId_of_violations member

theorem mem_diagnostics {r : RegisteredRule} {c : Context} {check : Check} {d : Diagnostic} :
    d ∈ (r.adds c check).diagnostics ↔
      ∃ failure, check.run c = .error failure ∧ d = ⟨r.rule.id,check.name,failure.message⟩ := by
  unfold adds
  cases check.run c <;> simp

theorem ruleId_of_diagnostics {r : RegisteredRule} {c : Context} {d : Diagnostic}
    (member : d ∈ (r.contribution c).diagnostics) : d.ruleId = r.rule.id := by
  unfold contribution at member
  split at member
  · simp only [addsAll,Collected.concat,List.flatMap_map,List.mem_flatMap] at member
    obtain ⟨check,_,member⟩ := member
    obtain ⟨_,_,rfl⟩ := mem_diagnostics.mp member
    rfl
  · cases member

end RegisteredRule

namespace Registry

theorem registerEntry_ids (rule : Rule) (entries : List RegisteredRule) :
    (registerEntry rule entries).map (·.rule.id) =
      if rule.id ∈ entries.map (·.rule.id) then entries.map (·.rule.id)
      else entries.map (·.rule.id) ++ [rule.id] := by
  induction entries with
  | nil => simp [registerEntry]
  | cons e rest ih =>
    rw [registerEntry]
    by_cases same : e.rule.id = rule.id
    · simp [same]
    · simp only [if_neg same,List.map_cons,ih,List.mem_cons,Ne.symm same,false_or]
      split <;> rfl

theorem applySettings_rules (id : String) (s : RuleSettings) (entries : List RegisteredRule) :
    (applySettings id s entries).map (·.rule) = entries.map (·.rule) := by
  induction entries with
  | nil => rfl
  | cons e rest ih =>
    rw [applySettings]
    split
    · rfl
    · rw [List.map_cons,ih,List.map_cons]

/-- Settings change no rule and no order. -/
theorem configureAll_rules (settings : List (String × RuleSettings)) (r : Registry) :
    (configureAll settings r).1.entries.map (·.rule) = r.entries.map (·.rule) := by
  induction settings generalizing r with
  | nil => rfl
  | cons setting rest ih =>
    obtain ⟨id,s⟩ := setting
    rw [configureAll]
    split
    · rw [ih,applySettings_rules]
    · rfl

/-- The ids of rules, in order. -/
def ids (r : Registry) : List String := r.entries.map (·.rule.id)

theorem ids_register (r : Registry) (rule : Rule) : (r.register rule).ids =
    if rule.id ∈ r.ids then r.ids else r.ids ++ [rule.id] :=
  registerEntry_ids rule r.entries

theorem ids_configure (r : Registry) (config : Config) : (r.configure config).1.ids = r.ids := by
  have same := congrArg (List.map Rule.id) (configureAll_rules config.rules.entries r)
  simp only [List.map_map] at same
  exact same

/-- Registries that registration and configuration lead to. -/
inductive Built : Registry → Prop where
  | empty : Built .empty
  | register {r : Registry} (rule : Rule) : Built r → Built (r.register rule)
  | configure {r : Registry} (config : Config) : Built r → Built (r.configure config).1

theorem Built.distinct {r : Registry} (built : r.Built) : r.ids.Nodup := by
  induction built with
  | empty => exact .nil
  | register rule _ ih =>
    rw [ids_register]
    split
    · exact ih
    · next new =>
      refine List.nodup_append.mpr ⟨ih,by simp,?_⟩
      intro a old b same
      rw [List.mem_singleton.mp same]
      rintro rfl
      exact new old
  | configure config _ ih => rwa [ids_configure]

theorem builtins_built {server : Remote.Server} {cache : Remote.Cache} {config : Config}
    {r : Registry} (done : builtins server cache config = .ok r) : r.Built := by
  unfold builtins at done
  split at done
  · next configured =>
    cases done
    have plain : (plainBuiltins server config.schemaUrls cache).Built :=
      (Built.empty.register _).register _
    simpa [configured] using plain.configure config
  · cases done

theorem get?_some {r : Registry} {id : String} {e : RegisteredRule} (found : r.get? id = some e) :
    e ∈ r.entries ∧ e.rule.id = id := by
  have member := List.mem_of_find?_eq_some found
  have same := List.find?_some found
  exact ⟨member,by simpa using same⟩

/-- Where ids are apart, each rule is found under its own. -/
theorem get?_of_mem {r : Registry} (distinct : r.ids.Nodup) {e : RegisteredRule}
    (member : e ∈ r.entries) : r.get? e.rule.id = some e := by
  obtain ⟨entries⟩ := r
  simp only [ids,get?] at distinct member ⊢
  induction entries with
  | nil => cases member
  | cons first rest ih =>
    obtain ⟨absent,distinct⟩ := List.nodup_cons.mp distinct
    rcases List.mem_cons.mp member with rfl | member
    · simp
    · have other : first.rule.id ≠ e.rule.id := fun same =>
        absent (List.mem_map.mpr ⟨e,member,same.symm⟩)
      simpa [other] using ih distinct member

/-- What rules give under their own ids can be told apart by the ids. -/
theorem filter_flatMap_id {β : Type} (label : β → String) (f : RegisteredRule → List β)
    (own : ∀ e, ∀ b ∈ f e, label b = e.rule.id) {entries : List RegisteredRule}
    (distinct : (entries.map (·.rule.id)).Nodup) {e : RegisteredRule} (member : e ∈ entries) :
    (entries.flatMap f).filter (label · = e.rule.id) = f e := by
  induction entries with
  | nil => cases member
  | cons first rest ih =>
    obtain ⟨absent,distinct⟩ := List.nodup_cons.mp distinct
    rw [List.flatMap_cons,List.filter_append]
    rcases List.mem_cons.mp member with rfl | member
    · have all : (f e).filter (label · = e.rule.id) = f e :=
        List.filter_eq_self.mpr fun b inside => by simp [own e b inside]
      have none : (rest.flatMap f).filter (label · = e.rule.id) = [] := by
        refine List.filter_eq_nil_iff.mpr fun b inside => ?_
        obtain ⟨other,later,inside⟩ := List.mem_flatMap.mp inside
        have apart : other.rule.id ≠ e.rule.id := fun same =>
          absent (List.mem_map.mpr ⟨other,later,same⟩)
        simpa [own other b inside] using apart
      rw [all,none,List.append_nil]
    · have apart : first.rule.id ≠ e.rule.id := fun same =>
        absent (List.mem_map.mpr ⟨e,member,same.symm⟩)
      have none : (f first).filter (label · = e.rule.id) = [] :=
        List.filter_eq_nil_iff.mpr fun b inside => by simpa [own first b inside] using apart
      rw [none,List.nil_append,ih distinct member]

/-- Under a rule's id a report has what that rule adds. -/
theorem violationsOf_lintContext {r : Registry} (built : r.Built) (c : Context) {id : String}
    {e : RegisteredRule} (found : r.get? id = some e) :
    (r.lintContext c).violationsOf id = (e.contribution c).schema ++ (e.contribution c).rules := by
  obtain ⟨member,rfl⟩ := get?_some found
  have schema := filter_flatMap_id Violation.ruleId (fun e => (e.contribution c).schema)
    (fun e v inside => RegisteredRule.ruleId_of_contribution (.inl inside)) built.distinct member
  have rules := filter_flatMap_id Violation.ruleId (fun e => (e.contribution c).rules)
    (fun e v inside => RegisteredRule.ruleId_of_contribution (.inr inside)) built.distinct member
  rw [Report.violationsOf,lintContext_eq,List.filter_append,schema,rules]

theorem outcome?_lintContext (r : Registry) (c : Context) (id : String) :
    (r.lintContext c).outcome? id = (r.get? id).map (·.outcome c) := by
  rw [lintContext_eq,Report.outcome?,List.find?_map,Option.map_map]
  rfl

theorem mem_violations {r : Registry} {c : Context} {v : Violation} :
    v ∈ (r.lintContext c).violations ↔ ∃ e ∈ r.entries, e.enabled = true ∧
      ∃ check ∈ e.rule.checks, v ∈ e.violations c check := by
  simp only [lintContext_eq,List.mem_append,List.mem_flatMap]
  constructor
  · rintro (⟨e,inside,member⟩ | ⟨e,inside,member⟩)
    · exact ⟨e,inside,RegisteredRule.mem_contribution.mp (.inl member)⟩
    · exact ⟨e,inside,RegisteredRule.mem_contribution.mp (.inr member)⟩
  · rintro ⟨e,inside,member⟩
    rcases RegisteredRule.mem_contribution.mpr member with member | member
    · exact .inl ⟨e,inside,member⟩
    · exact .inr ⟨e,inside,member⟩

end Registry
end ApiReview
