import ApiReview.Proofs.Registry

/-! Calls on a registry. Under an id stands the rule that was registered last, in the state that
the last configuration after it gives; the order is that of the first registrations. -/
namespace ApiReview

/-- A rule in the state that settings give, if there are any. -/
def RegisteredRule.under (e : RegisteredRule) : Option RuleSettings → RegisteredRule
  | none => e
  | some s => { e with enabled := s.enabled, override := s.severity }

/-- Later settings replace earlier ones as a whole. -/
theorem RegisteredRule.under_under (e : RegisteredRule) (earlier later : Option RuleSettings) :
    (e.under earlier).under later = e.under (later.or earlier) := by
  cases later <;> cases earlier <;> rfl

namespace Registry

inductive Call where
  | register (rule : Rule)
  | configure (config : Config)

namespace Call

/-- The registry after a call; none if the call is refused. -/
def on? (r : Registry) : Call → Option Registry
  | register rule => some (r.register rule)
  | configure config => match r.configure config with
    | (configured,none) => some configured
    | (_,some _) => none

/-- The id that a call registers a rule under. -/
def registers? : Call → Option String
  | register rule => some rule.id
  | configure _ => none

/-- What a call sets for the rule of an id. -/
def settings? (id : String) : Call → Option RuleSettings
  | register _ => none
  | configure config => config.rules.get? id

end Call

/-- The registry after calls, of which none is refused. -/
def after? (r : Registry) (calls : List Call) : Option Registry := calls.foldlM Call.on? r

theorem after?_cons {r last : Registry} {call : Call} {rest : List Call} :
    r.after? (call :: rest) = some last ↔
      ∃ next, call.on? r = some next ∧ next.after? rest = some last := by
  rw [after?,List.foldlM_cons]
  exact Option.bind_eq_some_iff

theorem after?_append {r last : Registry} {calls more : List Call} :
    r.after? (calls ++ more) = some last ↔
      ∃ middle, r.after? calls = some middle ∧ middle.after? more = some last := by
  rw [after?,List.foldlM_append]
  exact Option.bind_eq_some_iff

/-- The settings that the last of the calls has that mentions an id. -/
def lastSettings? (id : String) (calls : List Call) : Option RuleSettings :=
  calls.reverse.findSome? (Call.settings? id)

section
variable (id : String)

theorem get?_register (r : Registry) (rule : Rule) :
    (r.register rule).get? id = if rule.id = id then some { rule } else r.get? id := by
  obtain ⟨entries⟩ := r
  simp only [register,get?]
  induction entries with
  | nil => by_cases same : rule.id = id <;> simp [registerEntry,same]
  | cons e rest ih =>
    rw [registerEntry]
    by_cases same : e.rule.id = rule.id
    · rw [if_pos same]
      by_cases here : rule.id = id
      · simp [here]
      · simp [same,here]
    · rw [if_neg same]
      by_cases here : e.rule.id = id
      · have other : rule.id ≠ id := fun again => same (here.trans again.symm)
        simp [here,other]
      · simpa [here] using ih

theorem get?_applySettings (k : String) (s : RuleSettings) (entries : List RegisteredRule) :
    (⟨applySettings k s entries⟩ : Registry).get? id =
      ((⟨entries⟩ : Registry).get? id).map (·.under (if k = id then some s else none)) := by
  simp only [get?]
  induction entries with
  | nil => rfl
  | cons e rest ih =>
    rw [applySettings]
    by_cases same : e.rule.id = k
    · rw [if_pos same]
      by_cases here : k = id
      · simp [same,here,RegisteredRule.under]
      · cases found : rest.find? (·.rule.id = id) <;> simp [same,here,found,RegisteredRule.under]
    · rw [if_neg same]
      by_cases here : e.rule.id = id
      · have other : k ≠ id := fun again => same (here.trans again.symm)
        simp [here,other,RegisteredRule.under]
      · simpa [here] using ih

/-- Settings reach the rule of their id and no other. -/
theorem get?_configureAll {settings : List (String × RuleSettings)} {r configured : Registry}
    (once : (settings.map Prod.fst).Nodup) (done : configureAll settings r = (configured,none)) :
    configured.get? id =
      (r.get? id).map (·.under ((settings.find? (·.1 = id)).map (·.2))) := by
  induction settings generalizing r with
  | nil =>
    obtain ⟨rfl,_⟩ := Prod.mk.inj done
    cases r.get? id <;> rfl
  | cons setting rest ih =>
    obtain ⟨k,s⟩ := setting
    obtain ⟨new,once⟩ := List.nodup_cons.mp once
    rw [configureAll] at done
    split at done
    · rw [ih once done,get?_applySettings,Option.map_map]
      refine congrArg (Option.map · _) (funext fun e => ?_)
      by_cases here : k = id
      · subst here
        have absent : rest.find? (·.1 = k) = none := by
          refine List.find?_eq_none.mpr fun setting inside same => new ?_
          exact List.mem_map.mpr ⟨setting,inside,by simpa using same⟩
        simp [absent,RegisteredRule.under]
      · simp [here,RegisteredRule.under]
    · cases done

theorem get?_configure {r configured : Registry} {config : Config}
    (done : r.configure config = (configured,none)) :
    configured.get? id = (r.get? id).map (·.under (config.rules.get? id)) :=
  get?_configureAll id (config.rules.sorted.imp fun less => String.ne_of_lt less) done

end

theorem mem_ids {r : Registry} {id : String} : id ∈ r.ids ↔ ∃ e, r.get? id = some e := by
  simp [ids,get?,← Option.isSome_iff_exists]

/-- What an accepted call can be. -/
theorem Call.on_cases {r next : Registry} {call : Call} (done : call.on? r = some next) :
    (∃ rule, call = register rule ∧ next = r.register rule) ∨
    ∃ config, call = configure config ∧ r.configure config = (next,none) := by
  cases call with
  | register rule => exact .inl ⟨rule,rfl,(Option.some.inj done).symm⟩
  | configure config =>
    simp only [on?] at done
    split at done
    · next accepted => exact .inr ⟨config,rfl,accepted.trans (by rw [Option.some.inj done])⟩
    · cases done

/-- One call: a rule has its state set, unless the call replaces it. -/
theorem Call.get?_on {r next : Registry} {call : Call} (done : call.on? r = some next) {id : String}
    (kept : call.registers? ≠ some id) :
    next.get? id = (r.get? id).map (·.under (call.settings? id)) := by
  rcases on_cases done with ⟨rule,rfl,rfl⟩ | ⟨config,rfl,accepted⟩
  · have other : rule.id ≠ id := fun same => kept (congrArg some same)
    rw [get?_register,if_neg other]
    cases r.get? id <;> rfl
  · exact get?_configure id accepted

/-- One call: an id is added to the end if it is new. -/
theorem Call.ids_on {r next : Registry} {call : Call} (done : call.on? r = some next) :
    next.ids = r.ids ++ call.registers?.toList.filter (· ∉ r.ids) := by
  rcases on_cases done with ⟨rule,rfl,rfl⟩ | ⟨config,rfl,accepted⟩
  · rw [ids_register]
    by_cases known : rule.id ∈ r.ids <;> simp [registers?,known]
  · have same := ids_configure r config
    rw [accepted] at same
    simpa [registers?] using same

theorem Call.built_on {r next : Registry} {call : Call} (built : r.Built)
    (done : call.on? r = some next) : next.Built := by
  rcases on_cases done with ⟨rule,rfl,rfl⟩ | ⟨config,rfl,accepted⟩
  · exact built.register rule
  · have state := built.configure config
    rwa [accepted] at state

/-- A run of calls in which nothing is registered under an id: the last settings count. -/
theorem get?_after {r last : Registry} {calls : List Call} (done : r.after? calls = some last)
    {id : String} (kept : ∀ call ∈ calls, call.registers? ≠ some id) :
    last.get? id = (r.get? id).map (·.under (lastSettings? id calls)) := by
  induction calls generalizing r with
  | nil =>
    obtain rfl := Option.some.inj done
    cases r.get? id <;> rfl
  | cons call rest ih =>
    obtain ⟨next,one,done⟩ := after?_cons.mp done
    have step := Call.get?_on one (kept call List.mem_cons_self)
    have later := ih done fun other inside => kept other (List.mem_cons_of_mem call inside)
    have settings : lastSettings? id (call :: rest) =
        (lastSettings? id rest).or (call.settings? id) := by
      simp [lastSettings?,List.findSome?_append]
    rw [later,step,settings,Option.map_map]
    simp only [Function.comp_def,RegisteredRule.under_under]

/-- A run of calls: new ids follow the old ones in the order of their first registration. -/
theorem ids_after {r last : Registry} {calls : List Call} (done : r.after? calls = some last) :
    last.ids = r.ids ++ ((calls.filterMap Call.registers?).filter (· ∉ r.ids)).eraseDups := by
  induction calls generalizing r with
  | nil =>
    obtain rfl := Option.some.inj done
    simp
  | cons call rest ih =>
    obtain ⟨next,one,done⟩ := after?_cons.mp done
    rw [ih done,Call.ids_on one,List.filterMap_cons]
    cases call.registers? with
    | none => simp
    | some id =>
      by_cases known : id ∈ r.ids
      · simp [known]
      · have fresh : (rest.filterMap Call.registers?).filter (· ∉ r.ids ++ [id]) =
            ((rest.filterMap Call.registers?).filter (· ∉ r.ids)).filter (! · == id) := by
          rw [List.filter_filter]
          refine List.filter_congr fun other _ => ?_
          by_cases same : other = id <;> simp [same]
        have added : [id].filter (· ∉ r.ids) = [id] := by simp [known]
        have kept (more : List String) : (id :: more).filter (· ∉ r.ids) =
            id :: more.filter (· ∉ r.ids) := by simp [known]
        rw [Option.toList_some,added,fresh,kept,List.eraseDups_cons,List.append_assoc,
          List.singleton_append]

theorem built_after {r last : Registry} {calls : List Call} (built : r.Built)
    (done : r.after? calls = some last) : last.Built := by
  induction calls generalizing r with
  | nil =>
    obtain rfl := Option.some.inj done
    exact built
  | cons call rest ih =>
    obtain ⟨next,one,done⟩ := after?_cons.mp done
    exact ih (Call.built_on built one) done

/-- The state of a registry follows from the calls on it: which ids there are, in which order, and
for each id the rule that was registered last, under the last settings since then. -/
theorem state_of_calls {calls : List Call} {r : Registry} (done : empty.after? calls = some r) :
    r.ids = (calls.filterMap Call.registers?).eraseDups ∧ r.ids.Nodup ∧
    (∀ e ∈ r.entries, r.get? e.rule.id = some e) ∧
    (∀ id, (∃ e, r.get? id = some e) ↔ ∃ rule, .register rule ∈ calls ∧ rule.id = id) ∧
    ∀ before rule after, calls = before ++ .register rule :: after →
      (∀ later, .register later ∈ after → later.id ≠ rule.id) →
      r.get? rule.id = some (RegisteredRule.under { rule } (lastSettings? rule.id after)) := by
  have distinct : r.ids.Nodup := (built_after .empty done).distinct
  have order : r.ids = (calls.filterMap Call.registers?).eraseDups := by
    have all : (calls.filterMap Call.registers?).filter (· ∉ empty.ids) =
        calls.filterMap Call.registers? := List.filter_eq_self.mpr (by simp [ids,empty])
    rw [ids_after done,all]
    rfl
  refine ⟨order,distinct,fun e member => get?_of_mem distinct member,fun id => ?_,?_⟩
  · rw [← mem_ids,order,List.mem_eraseDups,List.mem_filterMap]
    constructor
    · rintro ⟨call,inside,registers⟩
      cases call with
      | register rule => exact ⟨rule,inside,Option.some.inj registers⟩
      | configure config => cases registers
    · rintro ⟨rule,inside,rfl⟩
      exact ⟨_,inside,rfl⟩
  · rintro before rule after rfl last
    obtain ⟨earlier,_,done⟩ := after?_append.mp done
    obtain ⟨here,one,done⟩ := after?_cons.mp done
    obtain rfl := Option.some.inj one
    have kept : ∀ call ∈ after, call.registers? ≠ some rule.id := by
      intro call inside same
      cases call with
      | register later => exact last later inside (Option.some.inj same)
      | configure config => cases same
    rw [get?_after done kept,get?_register,if_pos rfl,Option.map_some]

/-- Settings for one rule. -/
def only (id : String) (s : RuleSettings) : Config := { rules := RuleTable.empty.insert id s }

/-- A rule without checks. -/
def idle (id title : String) : Rule := ⟨id,title,.should,[]⟩

/-- A rule is set up, replaced, and set up again after another one. -/
def replacement : List Call := [.register (idle "a" "first"),
  .configure (only "a" { enabled := false }),.register (idle "b" "other"),
  .register (idle "a" "second"),.configure (only "a" { severity := some .must }),
  .configure (only "b" { enabled := false })]

theorem state_of_calls_replacement : ∃ r, empty.after? replacement = some r ∧ r.ids = ["a","b"] ∧
    r.get? "a" = some ⟨idle "a" "second",true,some .must⟩ ∧
    r.get? "b" = some ⟨idle "b" "other",false,none⟩ := by
  refine ⟨_,rfl,?_⟩
  obtain ⟨order,_,_,_,state⟩ := state_of_calls (show empty.after? replacement = some _ from rfl)
  have first := state (replacement.take 3) (idle "a" "second") (replacement.drop 4) rfl
    (by simp [replacement])
  have other := state (replacement.take 2) (idle "b" "other") (replacement.drop 3) rfl
    (by simp [replacement,idle])
  exact ⟨order,first,other⟩

end Registry
end ApiReview
