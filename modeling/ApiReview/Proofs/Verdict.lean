import ApiReview.Schema.Validator

/-! Faults and verdicts. Faults are looked for apart from the verdict, but a value has none exactly
if it is accepted. -/
namespace ApiReview.Schema

/-- References are followed to faults exactly where they are followed to a refusal. -/
def Following.Agrees (follow : Following) : Prop :=
  ∀ target here v, (follow.faults target here v).isEmpty = follow.accepts target v

@[simp] theorem append_isEmpty {α : Type} (a b : List α) :
    (a ++ b).isEmpty = (a.isEmpty && b.isEmpty) := by
  cases a <;> rfl

@[simp] theorem demand_isEmpty (holds : Bool) (here : Pointer) (failure : Failure) :
    (demand holds here failure).isEmpty = holds := by
  cases holds <;> rfl

theorem append?_isEmpty (a b : Option (List Fault)) :
    (append? a b).map List.isEmpty = both? (a.map List.isEmpty) (b.map List.isEmpty) := by
  cases a <;> cases b <;> simp [append?,both?]

theorem append?_getD_isEmpty (a b : Option (List Fault)) (others : List Fault) :
    ((append? a b).getD others).isEmpty =
      (both? (a.map List.isEmpty) (b.map List.isEmpty)).getD others.isEmpty := by
  rw [← append?_isEmpty]
  cases append? a b <;> rfl

theorem missing_isEmpty (here : Pointer) (names : List String) (ms : List (String × Json)) :
    ((names.filter fun name => (Json.lookup name ms).isNone).map
      fun name => (⟨here,.missing name⟩ : Fault)).isEmpty =
      names.all fun name => (Json.lookup name ms).isSome := by
  induction names with
  | nil => rfl
  | cons name rest ih => cases known : Json.lookup name ms <;> simp_all

theorem memberFaults_isEmpty (check : String → Json → List Fault) (ms : List (String × Json)) :
    (memberFaults check ms).isEmpty = ms.all fun (name,v) => (check name v).isEmpty := by
  induction ms with
  | nil => rfl
  | cons m rest ih =>
    rw [memberFaults] at ih
    simp [memberFaults,ih]

/-- Where members that nothing is known of are refused, each member is known and has no faults. -/
theorem onlyKnown_isEmpty (known : String → Json → Option (List Fault)) (here : Pointer)
    (failure : Failure) (ms : List (String × Json)) :
    (memberFaults (fun name v => (known name v).getD []) ms ++
      demand (ms.filter fun (name,v) => (known name v).isNone).isEmpty here failure).isEmpty =
      ms.all fun (name,v) => ((known name v).map List.isEmpty).getD false := by
  simp only [append_isEmpty,memberFaults_isEmpty,demand_isEmpty]
  induction ms with
  | nil => rfl
  | cons m rest ih =>
    obtain ⟨name,v⟩ := m
    simp only [List.all_cons,List.filter_cons,← ih]
    cases known name v with
    | none => simp
    | some fs => simp [Bool.and_assoc]

theorem itemFaults_isEmpty {check : Pointer → Json → List Fault} {verdict : Json → Bool}
    (agree : ∀ here v, (check here v).isEmpty = verdict v) (here : Pointer) (i : Nat)
    (vs : List Json) : (itemFaults check here i vs).isEmpty = vs.all verdict := by
  induction vs generalizing i with
  | nil => rfl
  | cons v rest ih => simp [itemFaults,agree,ih]

section
variable {follow : Following}

mutual

/-- A value has no faults by a schema exactly if it is accepted. -/
theorem faults_isEmpty (agree : follow.Agrees) : ∀ (s : Schema) (here : Pointer) (v : Json),
    (faults follow s here v).isEmpty = accepts follow.accepts s v
  | .everything, _, _ | .nothing, _, _ => by simp [faults,accepts]
  | .reference target, here, v => by simpa only [faults,accepts] using agree target here v
  | .keywords list, here, v => by
    simpa only [faults,accepts] using keywordsFaults_isEmpty agree list here v

theorem keywordsFaults_isEmpty (agree : follow.Agrees) :
    ∀ (list : List Keyword) (here : Pointer) (v : Json),
    (keywordsFaults follow list here v).isEmpty = keywordsAccept follow.accepts list v
  | [], _, _ => by simp [keywordsFaults,keywordsAccept]
  | k :: rest, here, v => by
    simp [keywordsFaults,keywordsAccept,keywordFaults_isEmpty agree k here v,
      keywordsFaults_isEmpty agree rest here v]

theorem keywordFaults_isEmpty (agree : follow.Agrees) :
    ∀ (k : Keyword) (here : Pointer) (v : Json),
    (keywordFaults follow k here v).isEmpty = keywordAccepts follow.accepts k v
  | .constraint c, here, v => by simp [keywordFaults,keywordAccepts]
  | .required names, here, v => by
    cases v with
    | object ms => simpa only [keywordFaults,keywordAccepts] using missing_isEmpty here names ms
    | _ => simp [keywordFaults,keywordAccepts]
  | .dependencies list, here, v => by
    cases v with
    | object ms =>
      simpa only [keywordFaults,keywordAccepts] using dependenciesFaults_isEmpty agree list here ms
    | _ => simp [keywordFaults,keywordAccepts]
  | .properties list, here, v => by
    cases v with
    | object ms =>
      simpa only [keywordFaults,keywordAccepts] using namedFaults_isEmpty agree list here ms
    | _ => simp [keywordFaults,keywordAccepts]
  | .patternProperties list, here, v => by
    cases v with
    | object ms =>
      simpa only [keywordFaults,keywordAccepts] using matchingFaults_isEmpty agree list here ms
    | _ => simp [keywordFaults,keywordAccepts]
  | .members named matching rest, here, v => by
    cases v with
    | object ms =>
      simp only [keywordFaults,keywordAccepts,memberFaults_isEmpty]
      refine congrArg ms.all (funext fun (name,v) => ?_)
      rw [append?_getD_isEmpty,nameFaults?_isEmpty agree named name (here.key name) v,
        patternsFaults?_isEmpty agree matching name (here.key name) v,
        faults_isEmpty agree rest (here.key name) v]
    | _ => simp [keywordFaults,keywordAccepts]
  | .onlyMembers named matching, here, v => by
    cases v with
    | object ms =>
      simp only [keywordFaults,keywordAccepts,onlyKnown_isEmpty]
      refine congrArg ms.all (funext fun (name,v) => ?_)
      rw [append?_isEmpty,nameFaults?_isEmpty agree named name (here.key name) v,
        patternsFaults?_isEmpty agree matching name (here.key name) v]
    | _ => simp [keywordFaults,keywordAccepts]
  | .noMembers, here, v => by
    cases v with
    | object ms => cases ms <;> simp [keywordFaults,keywordAccepts]
    | _ => simp [keywordFaults,keywordAccepts]
  | .items s, here, v => by
    cases v with
    | array vs =>
      simpa only [keywordFaults,keywordAccepts] using
        itemFaults_isEmpty (faults_isEmpty agree s) here 0 vs
    | _ => simp [keywordFaults,keywordAccepts]
  | .firstItems list, here, v => by
    cases v with
    | array vs =>
      simpa only [keywordFaults,keywordAccepts] using firstFaults_isEmpty agree list here 0 vs
    | _ => simp [keywordFaults,keywordAccepts]
  | .restItems first s, here, v => by
    cases v with
    | array vs =>
      simpa only [keywordFaults,keywordAccepts] using
        itemFaults_isEmpty (faults_isEmpty agree s) here first (vs.drop first)
    | _ => simp [keywordFaults,keywordAccepts]
  | .noRestItems first, here, v => by
    cases v with
    | array vs => simp [keywordFaults,keywordAccepts]
    | _ => simp [keywordFaults,keywordAccepts]
  | .allOf list, here, v => by
    simpa only [keywordFaults,keywordAccepts] using allFaults_isEmpty agree list here v
  | .anyOf list, here, v => by simp [keywordFaults,keywordAccepts]
  | .oneOf list, here, v => by
    simp only [keywordFaults,keywordAccepts]
    split <;> simp_all
  | .not source s, here, v => by simp [keywordFaults,keywordAccepts]

theorem allFaults_isEmpty (agree : follow.Agrees) :
    ∀ (list : List Schema) (here : Pointer) (v : Json),
    (allFaults follow list here v).isEmpty = allAccept follow.accepts list v
  | [], _, _ => by simp [allFaults,allAccept]
  | s :: rest, here, v => by
    simp [allFaults,allAccept,faults_isEmpty agree s here v,allFaults_isEmpty agree rest here v]

theorem firstFaults_isEmpty (agree : follow.Agrees) :
    ∀ (list : List Schema) (here : Pointer) (i : Nat) (vs : List Json),
    (firstFaults follow list here i vs).isEmpty = firstAccept follow.accepts list vs
  | [], _, _, _ | _ :: _, _, _, [] => by simp [firstFaults,firstAccept]
  | s :: rest, here, i, v :: vs => by
    simp [firstFaults,firstAccept,faults_isEmpty agree s (here.index i) v,
      firstFaults_isEmpty agree rest here (i + 1) vs]

theorem dependenciesFaults_isEmpty (agree : follow.Agrees) :
    ∀ (list : List (String × Schema)) (here : Pointer) (ms : List (String × Json)),
    (dependenciesFaults follow list here ms).isEmpty = dependenciesAccept follow.accepts list ms
  | [], _, _ => by simp [dependenciesFaults,dependenciesAccept]
  | (name,s) :: rest, here, ms => by
    cases known : Json.lookup name ms <;>
      simp [dependenciesFaults,dependenciesAccept,known,faults_isEmpty agree s here (.object ms),
        dependenciesFaults_isEmpty agree rest here ms]

theorem namedFaults_isEmpty (agree : follow.Agrees) :
    ∀ (list : List (String × Schema)) (here : Pointer) (ms : List (String × Json)),
    (namedFaults follow list here ms).isEmpty = namedAccept follow.accepts list ms
  | [], _, _ => by simp [namedFaults,namedAccept]
  | (name,s) :: rest, here, ms => by
    have others := namedFaults_isEmpty agree rest here ms
    cases known : Json.lookup name ms with
    | none => simp [namedFaults,namedAccept,known,others]
    | some v => simp [namedFaults,namedAccept,known,others,faults_isEmpty agree s (here.key name) v]

theorem matchingFaults_isEmpty (agree : follow.Agrees) :
    ∀ (list : List (Pattern × Schema)) (here : Pointer) (ms : List (String × Json)),
    (matchingFaults follow list here ms).isEmpty = matchingAccept follow.accepts list ms
  | [], _, _ => by simp [matchingFaults,matchingAccept]
  | (p,s) :: rest, here, ms => by
    simp only [matchingFaults,matchingAccept,append_isEmpty,memberFaults_isEmpty,
      matchingFaults_isEmpty agree rest here ms]
    refine congrArg (· && _) (congrArg ms.all (funext fun (name,v) => ?_))
    by_cases hit : p.matches name = true
    · simp [hit,faults_isEmpty agree s (here.key name) v]
    · simp [hit]

theorem nameFaults?_isEmpty (agree : follow.Agrees) :
    ∀ (list : List (String × Schema)) (name : String) (here : Pointer) (v : Json),
    (nameFaults? follow list name here v).map List.isEmpty = nameAccepts? follow.accepts list name v
  | [], _, _, _ => by simp [nameFaults?,nameAccepts?]
  | (k,s) :: rest, name, here, v => by
    have others := nameFaults?_isEmpty agree rest name here v
    by_cases same : k = name
    · simp [nameFaults?,nameAccepts?,same,faults_isEmpty agree s here v]
    · simp [nameFaults?,nameAccepts?,same,others]

theorem patternsFaults?_isEmpty (agree : follow.Agrees) :
    ∀ (list : List (Pattern × Schema)) (name : String) (here : Pointer) (v : Json),
    (patternsFaults? follow list name here v).map List.isEmpty =
      patternsAccept? follow.accepts list name v
  | [], _, _, _ => by simp [patternsFaults?,patternsAccept?]
  | (p,s) :: rest, name, here, v => by
    have others := patternsFaults?_isEmpty agree rest name here v
    by_cases hit : p.matches name = true
    · simp [patternsFaults?,patternsAccept?,hit,append?_isEmpty,others,faults_isEmpty agree s here v]
    · simp [patternsFaults?,patternsAccept?,hit,others]

end

end

namespace Validator

theorem faultsWithin_isEmpty (table : Array Schema) (n i : Nat) (here : Pointer) (v : Json) :
    (faultsWithin table n i here v).isEmpty = acceptsWithin table n i v := by
  induction n generalizing i here v with
  | zero => rfl
  | succ n ih =>
    have agree : Following.Agrees ⟨acceptsWithin table n,faultsWithin table n⟩ := ih
    exact faults_isEmpty agree _ here v

/-- Nothing is reported of a document exactly if it is accepted. -/
theorem findings_eq_nil_iff (validator : Validator) (document : Json) :
    validator.findings document = [] ↔ validator.accepts document = true := by
  have agree : Following.Agrees ⟨acceptsWithin validator.table (validator.rounds document),
      faultsWithin validator.table (validator.rounds document)⟩ := faultsWithin_isEmpty _ _
  rw [findings,List.map_eq_nil_iff,← List.isEmpty_iff,faults,
    faults_isEmpty agree validator.root .root document,accepts]

end Validator
end ApiReview.Schema
