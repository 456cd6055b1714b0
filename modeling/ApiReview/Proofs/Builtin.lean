import ApiReview.Proofs.Comprehension
import ApiReview.Proofs.Locations

/-! The built-in rules under a configuration. Whatever is configured, three checks may be due: the one
on the schema, the one on the format and the one on media types. -/
namespace ApiReview

theorem Due.mem_findings {d : Due} {c : Context} {f : Finding} :
    f ∈ d.findings c ↔ ∃ list, d.check.run c = .ok (.findings list) ∧ f ∈ list := by
  unfold findings
  split
  · next list same =>
    split
    · simp [same,← Finding.distinct_eq_firstUses,Finding.mem_distinct]
    · simp [same]
  · next other =>
    simp only [List.not_mem_nil,false_iff]
    rintro ⟨list,same,_⟩
    exact other list same

namespace Registry

variable {server : Remote.Server} {cache : Remote.Cache} {config : Config} {r : Registry}

/-- What is configured under the id of the rule on media types is that rule. -/
theorem builtins_mediaTypes (accepted : builtins server cache config = .ok r) {e : RegisteredRule}
    (found : r.get? MediaTypes.rule.id = some e) : e.rule = MediaTypes.rule := by
  obtain ⟨inside,id⟩ := get?_some found
  have listed := List.mem_map_of_mem (f := RegisteredRule.rule) inside
  rw [builtins_rules accepted] at listed
  simp only [List.mem_cons,List.not_mem_nil,or_false] at listed
  rcases listed with schema | same
  · rw [schema] at id
    exact absurd id (by simp [schemaRule,UseOpenApi.rule,UseOpenApi.id,MediaTypes.rule])
  · exact same

/-- A check that is due is the one on the schema, the one on the format or the one on media types. -/
theorem builtins_due (accepted : builtins server cache config = .ok r) {d : Due} (due : d ∈ r.due) :
    (d.check.entry = .document (fun root =>
        (Remote.findings server config.schemaUrls cache root).2.mapError fun e =>
          .error ["invalid schema: " ++ e.message]) ∧ d.check.name = "validate_schema") ∨
    (d.ruleId = UseOpenApi.id ∧ d.check.name = "check_yaml_format" ∧
      d.check.entry = .context fun c => .ok (UseOpenApi.formatFinding? c)) ∨
    (d.ruleId = MediaTypes.rule.id ∧ d.check.name = "validate" ∧
      d.check.entry = .elements fun c => .ok (MediaTypes.check c)) := by
  obtain ⟨e,inside,own⟩ := List.mem_flatMap.mp due
  have rule := List.mem_map_of_mem (f := RegisteredRule.rule) inside
  rw [builtins_rules accepted] at rule
  unfold RegisteredRule.due at own
  split at own
  · obtain ⟨check,listed,rfl⟩ := List.mem_map.mp own
    simp only [List.mem_cons,List.not_mem_nil,or_false] at rule
    rcases rule with rule | rule
    · rw [rule] at listed ⊢
      simp only [schemaRule,UseOpenApi.rule,List.mem_cons,List.not_mem_nil,or_false] at listed
      rcases listed with rfl | rfl
      · exact .inl ⟨rfl,rfl⟩
      · exact .inr (.inl ⟨rfl,rfl,rfl⟩)
    · rw [rule] at listed ⊢
      obtain rfl := List.mem_singleton.mp listed
      exact .inr (.inr ⟨rfl,rfl,rfl⟩)
  · cases own

end Registry
end ApiReview
