import ApiReview.Proofs.Calls
import ApiReview.Proofs.Outcomes

/-! Configurations that are refused. A registry refuses a configuration that names an id it does not
have; the settings of the ids before the first such id are applied nevertheless, and no others. -/
namespace ApiReview

/-- The ids that a configuration has settings for. -/
def Config.ids (config : Config) : List String := config.rules.entries.map Prod.fst

/-- The settings for a rule whose id sorts before another id. -/
def Config.settingsBefore? (config : Config) (limit id : String) : Option RuleSettings :=
  if id < limit then config.rules.get? id else none

theorem RegisteredRule.under_self_iff {e : RegisteredRule} {s : RuleSettings} :
    e.under (some s) = e ↔ e.enabled = s.enabled ∧ e.override = s.severity := by
  obtain ⟨rule,enabled,override⟩ := e
  simp only [under,mk.injEq,true_and]
  exact ⟨fun same => ⟨same.1.symm,same.2.symm⟩,fun same => ⟨same.1.symm,same.2.symm⟩⟩

namespace Registry

theorem isSome_get?_iff {r : Registry} {id : String} : (r.get? id).isSome = true ↔ id ∈ r.ids := by
  rw [mem_ids,Option.isSome_iff_exists]

theorem ids_applySettings (id : String) (s : RuleSettings) (r : Registry) :
    (⟨applySettings id s r.entries⟩ : Registry).ids = r.ids := by
  have same := congrArg (List.map Rule.id) (applySettings_rules id s r.entries)
  simp only [List.map_map] at same
  exact same

/-- Settings that are all applied are for rules that are there. -/
theorem configureAll_accepted {settings : List (String × RuleSettings)} {r left : Registry}
    (done : configureAll settings r = (left,none)) : ∀ setting ∈ settings, setting.1 ∈ r.ids := by
  induction settings generalizing r with
  | nil => simp
  | cons setting rest ih =>
    obtain ⟨k,s⟩ := setting
    rw [configureAll] at done
    split at done
    · next known =>
      have others := ih done
      rw [ids_applySettings] at others
      exact List.forall_mem_cons.mpr ⟨isSome_get?_iff.mp known,others⟩
    · cases done

/-- A list of settings that is refused does what its part before the first unknown id does. -/
theorem configureAll_refused {settings : List (String × RuleSettings)} {r left : Registry}
    {id : String} (done : configureAll settings r = (left,some id)) : ∃ before s after,
      settings = before ++ (id,s) :: after ∧ id ∉ r.ids ∧ configureAll before r = (left,none) := by
  induction settings generalizing r with
  | nil => cases done
  | cons setting rest ih =>
    obtain ⟨k,s⟩ := setting
    rw [configureAll] at done
    split at done
    · next known =>
      obtain ⟨before,t,after,rfl,new,first⟩ := ih done
      rw [ids_applySettings] at new
      refine ⟨(k,s) :: before,t,after,rfl,new,?_⟩
      rw [configureAll,if_pos known,first]
    · next unknown =>
      obtain ⟨rfl,same⟩ := Prod.mk.inj done
      obtain rfl := Option.some.inj same
      exact ⟨[],s,rest,rfl,fun there => unknown (isSome_get?_iff.mpr there),rfl⟩

/-- A registry follows from another one with the same ids, if it is known what stands under each. -/
theorem entries_eq_map {r left : Registry} (distinct : r.ids.Nodup) (ids : left.ids = r.ids)
    {f : RegisteredRule → RegisteredRule}
    (each : ∀ e ∈ r.entries, left.get? e.rule.id = some (f e)) :
    left.entries = r.entries.map f := by
  have lengths : left.entries.length = r.entries.length := by
    have same := congrArg List.length ids
    rwa [Registry.ids,Registry.ids,List.length_map,List.length_map] at same
  apply List.ext_getElem
  · rw [lengths,List.length_map]
  · intro i here there
    have inside : i < r.entries.length := lengths ▸ here
    have id : left.entries[i].rule.id = r.entries[i].rule.id := by
      have same := List.getElem_of_eq ids (i := i) (by rw [Registry.ids,List.length_map]; exact here)
      simpa [Registry.ids] using same
    have own := get?_of_mem (ids ▸ distinct) (List.getElem_mem here)
    rw [id,each _ (List.getElem_mem inside)] at own
    rw [List.getElem_map]
    exact (Option.some.inj own).symm

end Registry

/-- In the order of ids, what stands before an id is what sorts before it. -/
theorem RuleTable.find?_before {t : RuleTable} {before after : List (String × RuleSettings)}
    {limit : String} {s : RuleSettings} (split : t.entries = before ++ (limit,s) :: after)
    (id : String) : (before.find? (·.1 = id)).map (·.2) =
      if id < limit then t.get? id else none := by
  have sorted := t.sorted
  rw [split,List.map_append,List.map_cons,List.pairwise_append,List.pairwise_cons] at sorted
  obtain ⟨_,⟨behind,_⟩,front⟩ := sorted
  by_cases less : id < limit
  · have later : ((limit,s) :: after).find? (·.1 = id) = none := by
      apply List.find?_eq_none.mpr
      intro setting inside same
      obtain rfl : setting.1 = id := by simpa using same
      rcases List.mem_cons.mp inside with rfl | inside
      · exact String.lt_irrefl _ less
      · exact String.lt_irrefl _ (String.lt_trans less (behind _ (List.mem_map_of_mem inside)))
    rw [if_pos less,get?,split,List.find?_append,later,Option.or_none]
  · have nothing : before.find? (·.1 = id) = none := by
      apply List.find?_eq_none.mpr
      intro setting inside same
      obtain rfl : setting.1 = id := by simpa using same
      exact less (front _ (List.mem_map_of_mem inside) limit List.mem_cons_self)
    rw [if_neg less,nothing,Option.map_none]

namespace Registry

variable {r left : Registry} {config : Config} {id : String}

theorem configure_refused_iff : (∃ id, (r.configure config).2 = some id) ↔
    ∃ id ∈ config.ids, id ∉ r.ids := by
  constructor
  · rintro ⟨id,refused⟩
    have done : configureAll config.rules.entries r = ((r.configure config).1,some id) :=
      Prod.ext rfl refused
    obtain ⟨before,s,after,split,new,_⟩ := configureAll_refused done
    exact ⟨id,by simp [Config.ids,split],new⟩
  · rintro ⟨id,named,new⟩
    cases outcome : (r.configure config).2 with
    | some other => exact ⟨other,rfl⟩
    | none =>
      have done : configureAll config.rules.entries r = ((r.configure config).1,none) :=
        Prod.ext rfl outcome
      obtain ⟨setting,inside,rfl⟩ := List.mem_map.mp named
      exact absurd (configureAll_accepted done setting inside) new

/-- The id that is given is the first one that the registry does not have. -/
theorem first_of_refused (refused : r.configure config = (left,some id)) :
    id ∈ config.ids ∧ id ∉ r.ids ∧ ∀ other ∈ config.ids, other ∉ r.ids → id ≤ other := by
  obtain ⟨before,s,after,split,new,first⟩ := configureAll_refused refused
  have named : config.ids = before.map Prod.fst ++ id :: after.map Prod.fst := by
    simp [Config.ids,split]
  refine ⟨by simp [named],new,?_⟩
  intro other inside unknown
  have sorted := config.rules.sorted
  change config.ids.Pairwise (· < ·) at sorted
  rw [named,List.pairwise_append,List.pairwise_cons] at sorted
  rw [named,List.mem_append,List.mem_cons] at inside
  rcases inside with inside | rfl | inside
  · obtain ⟨setting,there,rfl⟩ := List.mem_map.mp inside
    exact absurd (configureAll_accepted first setting there) unknown
  · exact String.le_refl other
  · exact String.not_lt.mp fun less =>
      String.lt_irrefl _ (String.lt_trans less (sorted.2.1.1 other inside))

theorem get?_of_refused (refused : r.configure config = (left,some id)) (k : String) :
    left.get? k = (r.get? k).map (·.under (config.settingsBefore? id k)) := by
  obtain ⟨before,s,after,split,new,first⟩ := configureAll_refused refused
  have once : (before.map Prod.fst).Nodup := by
    have sorted := config.rules.sorted
    rw [split,List.map_append,List.pairwise_append] at sorted
    exact sorted.1.imp fun less => String.ne_of_lt less
  rw [get?_configureAll k once first,RuleTable.find?_before split]
  rfl

theorem ids_of_refused (refused : r.configure config = (left,some id)) : left.ids = r.ids := by
  have same := ids_configure r config
  rwa [refused] at same

theorem entries_of_refused (built : r.Built) (refused : r.configure config = (left,some id)) :
    left.entries = r.entries.map (fun e => e.under (config.settingsBefore? id e.rule.id)) := by
  apply entries_eq_map built.distinct (ids_of_refused refused)
  intro e inside
  rw [get?_of_refused refused,get?_of_mem built.distinct inside,Option.map_some]

/-- Settings leave a registry as it is if they say what its rules are set to. -/
theorem unchanged_iff {settings? : String → Option RuleSettings}
    (applied : left.entries = r.entries.map (fun e => e.under (settings? e.rule.id))) :
    left = r ↔ ∀ e ∈ r.entries, ∀ s, settings? e.rule.id = some s →
      e.enabled = s.enabled ∧ e.override = s.severity := by
  have whole : left = r ↔ left.entries = r.entries :=
    ⟨congrArg Registry.entries,fun same => by cases left; cases r; simpa using same⟩
  have each := List.map_inj_left (l := r.entries) (g := fun e => e)
    (f := fun e => e.under (settings? e.rule.id))
  rw [List.map_id'] at each
  rw [whole,applied,each]
  constructor
  · intro same e inside s settings
    have kept := same e inside
    rw [settings] at kept
    exact RegisteredRule.under_self_iff.mp kept
  · intro kept e inside
    cases settings : settings? e.rule.id with
    | none => rfl
    | some s => exact RegisteredRule.under_self_iff.mpr (kept e inside s settings)

/-- A rule whose state stays is reported on as before, whatever becomes of the others. -/
theorem report_of_kept (one : r.Built) (two : left.Built) {e : RegisteredRule}
    (before : r.get? id = some e) (after : left.get? id = some e) (c : Context) :
    (left.lintContext c).violationsOf id = (r.lintContext c).violationsOf id ∧
    (left.lintContext c).diagnosticsOf id = (r.lintContext c).diagnosticsOf id ∧
    (left.lintContext c).outcome? id = (r.lintContext c).outcome? id := by
  refine ⟨?_,?_,?_⟩
  · rw [violationsOf_lintContext one c before,violationsOf_lintContext two c after]
  · rw [diagnosticsOf_lintContext c one before,diagnosticsOf_lintContext c two after]
  · rw [outcome?_lintContext,outcome?_lintContext,before,after]

/-- A configuration is refused exactly if it names an id that the registry does not have. Then the
least such id is given, and the settings of the ids before it are in force: under every other id
stands what stood there, and is reported on as before. So nothing has changed exactly if those
settings are the state that the rules were in. -/
theorem configure_refused (built : r.Built) (config : Config) :
    ((∃ id, (r.configure config).2 = some id) ↔ ∃ id ∈ config.ids, id ∉ r.ids) ∧
    ∀ left id, r.configure config = (left,some id) →
      (id ∈ config.ids ∧ id ∉ r.ids ∧ ∀ other ∈ config.ids, other ∉ r.ids → id ≤ other) ∧
      left.entries = r.entries.map (fun e => e.under (config.settingsBefore? id e.rule.id)) ∧
      (left = r ↔ ∀ e ∈ r.entries, ∀ s, config.settingsBefore? id e.rule.id = some s →
        e.enabled = s.enabled ∧ e.override = s.severity) ∧
      ∀ e ∈ r.entries, config.settingsBefore? id e.rule.id = none → ∀ c,
        (left.lintContext c).violationsOf e.rule.id = (r.lintContext c).violationsOf e.rule.id ∧
        (left.lintContext c).diagnosticsOf e.rule.id = (r.lintContext c).diagnosticsOf e.rule.id ∧
        (left.lintContext c).outcome? e.rule.id = (r.lintContext c).outcome? e.rule.id := by
  refine ⟨configure_refused_iff,?_⟩
  intro left id refused
  have applied := entries_of_refused built refused
  refine ⟨first_of_refused refused,applied,unchanged_iff applied,?_⟩
  intro e inside untouched c
  have before := get?_of_mem built.distinct inside
  have after : left.get? e.rule.id = some e := by
    rw [get?_of_refused refused,before,untouched]
    rfl
  have leftBuilt : left.Built := by
    have again := built.configure config
    rwa [refused] at again
  exact report_of_kept built leftBuilt before after c

/-- Two rules, and settings for both of them and for a rule between them that is not there. -/
def outer : Registry := (empty.register (idle "c" "last")).register (idle "a" "first")

def withUnknown : Config where
  rules := ((RuleTable.empty.insert "a" { enabled := false }).insert "b" {}).insert "c"
    { severity := some .must }

theorem outer_built : outer.Built := (Built.empty.register _).register _

theorem withUnknown_refused :
    outer.configure withUnknown = ((outer.configure withUnknown).1,some "b") := rfl

/-- A configuration that is refused can change a registry, and what is reported later. -/
theorem configure_refused_changes : ¬ ∀ (r left : Registry) (config : Config) (id : String),
    r.Built → r.configure config = (left,some id) →
      left = r ∧ ∀ c, left.lintContext c = r.lintContext c := by
  intro atomic
  have report := (atomic outer _ withUnknown "b" outer_built withUnknown_refused).2
    (.ofDocument ⟨"",.object []⟩)
  have outcomes := congrArg (·.outcome? "a") report
  have before : (outer.lintContext (.ofDocument ⟨"",.object []⟩)).outcome? "a" =
      some .notApplicable := rfl
  have after : ((outer.configure withUnknown).1.lintContext (.ofDocument ⟨"",.object []⟩)).outcome?
      "a" = some .disabled := rfl
  rw [before,after] at outcomes
  cases outcomes

theorem configure_refused_outer : outer.Built ∧ "b" ∈ withUnknown.ids ∧ "b" ∉ outer.ids ∧
    (outer.configure withUnknown).1.entries =
      [⟨idle "c" "last",true,none⟩,⟨idle "a" "first",false,none⟩] := by
  obtain ⟨⟨named,new,_⟩,applied,_⟩ :=
    (configure_refused outer_built withUnknown).2 _ "b" withUnknown_refused
  exact ⟨outer_built,named,new,applied⟩

end Registry
end ApiReview
