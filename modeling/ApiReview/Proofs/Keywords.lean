import ApiReview.Proofs.Compiled
import ApiReview.Proofs.Grounded

/-! Keywords as they are applied, and what they mean. -/
namespace ApiReview

instance : LawfulBEq Json where
  eq_of_beq := Json.eq_of_beq
  rfl := Json.beq_refl _

/-- Objects have one member a name, and numbers are whole. -/
structure Json.Plain (v : Json) : Prop where
  distinct : v.Distinct
  whole : v.Whole

theorem Json.plain_hereditary : Hereditary Plain := fun v w child plain =>
  ⟨distinct_hereditary v w child plain.distinct,whole_hereditary v w child plain.whole⟩

namespace Schema
open Meaning

/-- What has been read for a member of a schema accepts a value; nothing may have been. -/
def Accepted (follow : Nat → Json → Bool) (value : Json) (o : Option Keyword) : Prop :=
  ∀ k, o = some k → keywordAccepts follow k value = true

section
variable {follow : Nat → Json → Bool} {value : Json}

@[simp] theorem accepted_none : Accepted follow value none := nofun

@[simp] theorem accepted_some {k : Keyword} :
    Accepted follow value (some k) ↔ keywordAccepts follow k value = true := by
  simp [Accepted]

end

/-! Constraints. -/

section
variable {follow : Nat → Json → Bool} {sat : Json → Json → Prop} {ms : List (String × Json)}
  {given value : Json} {o : Option Keyword}

theorem type_iff (yields : Yields (do return some (.constraint (.kind (← kindsOf given)))) o) :
    Accepted follow value o ↔ Says ms "type" given value .ordered sat := by
  obtain ⟨kinds,one,yields⟩ := yields.bind
  rw [yields.pure,accepted_some]
  exact kindsOf_yields one value

theorem enum_iff (whole : given.Whole) (plain : value.Whole) (yields : Yields (match given with
      | .array vs => pure (some (.constraint (.oneOf vs)))
      | _ => Reading.refuseKind [.array] given) o) :
    Accepted follow value o ↔ Says ms "enum" given value .ordered sat := by
  split at yields
  · next vs =>
    rw [yields.pure,accepted_some]
    simp only [keywordAccepts,Constraint.accepts,List.any_eq_true]
    refine exists_congr fun v => and_congr_right fun member => ?_
    exact (Json.same_iff plain (Json.whole_hereditary.items whole v member)).trans eq_comm
  · exact absurd yields Yields.refuse

theorem limit_iff {side : Side} {strict : Bool} (whole : given.Whole) (plain : value.Whole)
    (yields : Yields (do return some (.constraint (.limit side strict (← numberOf given)))) o) :
    Accepted follow value o ↔
      ∀ limit n, given.whole? = some limit → value.whole? = some n → Keeps side strict limit n := by
  obtain ⟨n,one,yields⟩ := yields.bind
  obtain rfl := numberOf_yields one
  obtain ⟨limit,fits,rfl⟩ := whole
  rw [yields.pure,accepted_some]
  cases value with
  | number n =>
    obtain ⟨n,fits',rfl⟩ := plain
    simp [keywordAccepts,Constraint.accepts,withinLimit_iff,Json.whole?]
  | _ => simp [keywordAccepts,Constraint.accepts,Json.whole?]

theorem multipleOf_iff (whole : given.Whole) (plain : value.Whole) (yields : Yields (do
      return some (.constraint (.multiple (← numberOf given).toBinary64))) o) :
    Accepted follow value o ↔ Says ms "multipleOf" given value .ordered sat := by
  obtain ⟨n,one,yields⟩ := yields.bind
  obtain rfl := numberOf_yields one
  obtain ⟨divisor,fits,rfl⟩ := whole
  rw [yields.pure,accepted_some]
  cases value with
  | number n =>
    obtain ⟨n,fits',rfl⟩ := plain
    simp [keywordAccepts,Constraint.accepts,isMultiple_iff,Says,Json.whole?,Comparison.ordered]
  | _ => simp [keywordAccepts,Constraint.accepts,Says,Json.whole?]

theorem size_iff {measure : Measure} {side : Side} (yields : Yields (do
      return some (.constraint (.size measure side (← countOf given)))) o) :
    Accepted follow value o ↔ ∀ n : Nat, measure.of? value = some n →
      ∀ limit, given.whole? = some limit → Keeps side false limit n := by
  obtain ⟨bound,one,yields⟩ := yields.bind
  rw [yields.pure,accepted_some]
  simp only [keywordAccepts,Constraint.accepts,countOf_yields one,Option.some.injEq,forall_eq']
  cases side <;> cases measure.of? value <;> simp [Keeps]

theorem pattern_iff (yields : Yields (do
      let text ← stringOf given
      return some (.constraint (.pattern (← patternOf text given)))) o) :
    Accepted follow value o ↔ Says ms "pattern" given value .ordered sat := by
  obtain ⟨text,one,rest⟩ := yields.bind
  obtain ⟨p,two,last⟩ := rest.bind
  obtain rfl := stringOf_yields one
  rw [last.pure,accepted_some]
  have same := patternOf_yields two
  cases value <;> simp [keywordAccepts,Constraint.accepts,Says,same]

theorem different_iff (plain : value.Whole)
    (yields : Yields (if given == .bool true then pure (some (.constraint .different))
      else pure none) o) :
    Accepted follow value o ↔ Says ms "uniqueItems" given value .ordered sat := by
  by_cases asked : given = .bool true
  · subst asked
    rw [if_pos (beq_self_eq_true _)] at yields
    rw [yields.pure,accepted_some]
    cases value with
    | array vs =>
      simpa [keywordAccepts,Constraint.accepts,Says,Comparison.ordered] using
        Json.allDifferent_iff (Json.whole_hereditary.items plain)
    | _ => simp [keywordAccepts,Constraint.accepts,Says]
  · rw [if_neg (by simpa using asked)] at yields
    rw [yields.pure]
    simp [Says,asked]

theorem required_iff (yields : Yields (do return some (.required (← stringsOf given))) o) :
    Accepted follow value o ↔ Says ms "required" given value .ordered sat := by
  obtain ⟨names,one,yields⟩ := yields.bind
  obtain ⟨_,rfl⟩ := stringsOf_yields one
  rw [yields.pure,accepted_some]
  cases value <;> simp [keywordAccepts,Says]

end

/-! Keywords that apply schemas. -/

/-- The schemas that the keywords of a schema apply are read to schemas that accept what satisfies
them. -/
structure Judged (S : Setting) (inner : Uri) (ms : List (String × Json)) (value : Json)
    (follow : Nat → Json → Bool) (sat : Json → Json → Prop) : Prop where
  plainSchema : (Json.object ms).Plain
  plainValue : value.Plain
  here : ∀ m ∈ ms, ∀ s ∈ applied m.1 m.2 value, ∀ c, Reads S inner s c →
    (accepts follow c value = true ↔ sat s value)
  inside : ∀ m ∈ ms, ∀ p ∈ below ms m.1 m.2 value, ∀ c, Reads S inner p.1 c →
    (accepts follow c p.2 = true ↔ sat p.1 p.2)
  free : ∀ m ∈ ms, ∀ p ∈ below ms m.1 m.2 value, ∀ b, p.1 = .bool b → (sat p.1 p.2 ↔ b = true)

section
variable {S : Setting} {inner : Uri} {ms : List (String × Json)} {given value : Json}
  {follow : Nat → Json → Bool} {sat : Json → Json → Prop} {o : Option Keyword}

/-- Lists that go together item by item, in which items that go together hold alike. -/
theorem forall₂_forall {α β : Type} {R : α → β → Prop} {P : α → Prop} {Q : β → Prop} {as : List α}
    {bs : List β} (each : List.Forall₂ R as bs) (alike : ∀ a ∈ as, ∀ b, R a b → (Q b ↔ P a)) :
    (∀ b ∈ bs, Q b) ↔ ∀ a ∈ as, P a := by
  induction each with
  | nil => simp
  | cons one _ ih =>
    have first := alike _ List.mem_cons_self _ one
    have rest := ih fun a later => alike a (List.mem_cons_of_mem _ later)
    simp only [List.forall_mem_cons,first,rest]

theorem forall₂_exists {α β : Type} {R : α → β → Prop} {P : α → Prop} {Q : β → Prop} {as : List α}
    {bs : List β} (each : List.Forall₂ R as bs) (alike : ∀ a ∈ as, ∀ b, R a b → (Q b ↔ P a)) :
    (∃ b ∈ bs, Q b) ↔ ∃ a ∈ as, P a := by
  have none := forall₂_forall each fun a member b related => not_congr (alike a member b related)
  simpa only [not_forall,not_not,exists_prop] using not_congr none

theorem anyAccepts_iff {list : List Schema} {v : Json} :
    anyAccepts follow list v = true ↔ ∃ s ∈ list, accepts follow s v = true := by
  induction list with
  | nil => simp [anyAccepts]
  | cons s rest ih => simp [anyAccepts,ih]

theorem acceptCount_eq_zero {list : List Schema} {v : Json} :
    acceptCount follow list v = 0 ↔ ∀ s ∈ list, ¬ accepts follow s v = true := by
  induction list with
  | nil => simp [acceptCount]
  | cons s rest ih => cases here : accepts follow s v <;> simp [acceptCount,ih,here]

theorem acceptCount_eq_one {list : List Schema} {v : Json} :
    acceptCount follow list v = 1 ↔ ExactlyOne (accepts follow · v = true) list := by
  induction list with
  | nil => simp [acceptCount,ExactlyOne]
  | cons s rest ih =>
    cases here : accepts follow s v with
    | false => simp [acceptCount,ExactlyOne,ih,here]
    | true => simp [acceptCount,ExactlyOne,acceptCount_eq_zero,here]

theorem forall₂_exactlyOne {α β : Type} {R : α → β → Prop} {P : α → Prop} {Q : β → Prop}
    {as : List α} {bs : List β} (each : List.Forall₂ R as bs)
    (alike : ∀ a ∈ as, ∀ b, R a b → (Q b ↔ P a)) : ExactlyOne Q bs ↔ ExactlyOne P as := by
  induction each with
  | nil => exact Iff.rfl
  | @cons a b as bs one rest ih =>
    have first := alike a List.mem_cons_self b one
    have later (c : α) (member : c ∈ as) := alike c (List.mem_cons_of_mem a member)
    have none := forall₂_forall rest fun c member d related => not_congr (later c member d related)
    exact or_congr (and_congr first none) (and_congr (not_congr first) (ih later))

theorem not_iff (judged : Judged S inner ms value follow sat) (member : ("not",given) ∈ ms)
    (yields : Yields (do return some (.not given (← ofJson S inner given))) o) :
    Accepted follow value o ↔ Says ms "not" given value .ordered sat := by
  obtain ⟨s,one,yields⟩ := yields.bind
  rw [yields.pure,accepted_some]
  have same := judged.here _ member given (by simp [applied]) s one
  simp [keywordAccepts,Says,← same]

theorem allOf_iff (judged : Judged S inner ms value follow sat) (member : ("allOf",given) ∈ ms)
    (yields : Yields (do return some (.allOf (← schemasOf S inner given))) o) :
    Accepted follow value o ↔ Says ms "allOf" given value .ordered sat := by
  obtain ⟨ss,one,yields⟩ := yields.bind
  rw [yields.pure,accepted_some,keywordAccepts,allAccept_iff]
  exact forall₂_forall (schemasOf_yields one) fun s listed c => judged.here _ member s listed c

theorem anyOf_iff (judged : Judged S inner ms value follow sat) (member : ("anyOf",given) ∈ ms)
    (yields : Yields (do return some (.anyOf (← schemasOf S inner given))) o) :
    Accepted follow value o ↔ Says ms "anyOf" given value .ordered sat := by
  obtain ⟨ss,one,yields⟩ := yields.bind
  rw [yields.pure,accepted_some,keywordAccepts,anyAccepts_iff]
  exact forall₂_exists (schemasOf_yields one) fun s listed c => judged.here _ member s listed c

theorem oneOf_iff (judged : Judged S inner ms value follow sat) (member : ("oneOf",given) ∈ ms)
    (yields : Yields (do return some (.oneOf (← schemasOf S inner given))) o) :
    Accepted follow value o ↔ Says ms "oneOf" given value .ordered sat := by
  obtain ⟨ss,one,yields⟩ := yields.bind
  rw [yields.pure,accepted_some,keywordAccepts,beq_iff_eq,acceptCount_eq_one]
  exact forall₂_exactlyOne (schemasOf_yields one) fun s listed c =>
    judged.here _ member s listed c

theorem dependenciesAccept_iff {list : List (String × Schema)} {fs : List (String × Json)} :
    dependenciesAccept follow list fs = true ↔
      ∀ f ∈ list, (Json.lookup f.1 fs).isSome = true → accepts follow f.2 (.object fs) = true := by
  induction list with
  | nil => simp [dependenciesAccept]
  | cons f rest ih =>
    cases here : Json.lookup f.1 fs <;> simp [dependenciesAccept,ih,here]

theorem dependencies_iff (judged : Judged S inner ms value follow sat)
    (member : ("dependencies",given) ∈ ms)
    (yields : Yields (do return some (.dependencies (← dependenciesOf S inner given))) o) :
    Accepted follow value o ↔ Says ms "dependencies" given value .ordered sat := by
  obtain ⟨list,one,yields⟩ := yields.bind
  rw [yields.pure,accepted_some]
  cases value with
  | object fs =>
    have each := forall₂_forall (dependenciesOf_yields one) (Q := fun f =>
        (Json.lookup f.1 fs).isSome = true → accepts follow f.2 (.object fs) = true)
      (P := fun m => (Json.lookup m.1 fs).isSome = true →
        (∀ member ∈ m.2.texts, (Json.lookup member fs).isSome = true) ∧
          (m.2.items? = none → sat m.2 (.object fs))) ?_
    · rw [keywordAccepts,dependenciesAccept_iff,each]
      simp only [Says,applied,Json.get?,List.mem_map,List.mem_filter]
      constructor
      · refine fun all => ⟨fun m listed there => (all m listed there).1,?_⟩
        rintro s ⟨m,⟨listed,asked⟩,rfl⟩
        simp only [Bool.and_eq_true,Option.isNone_iff_eq_none] at asked
        exact (all m listed asked.1).2 asked.2
      · rintro ⟨names,schemas⟩ m listed there
        refine ⟨names m listed there,fun single => schemas m.2 ⟨m,⟨listed,?_⟩,rfl⟩⟩
        simp [there,single]
    · rintro m listed f ⟨same,list | schema⟩
      · obtain ⟨⟨vs,array⟩,required⟩ := list
        have several : m.2.items? ≠ none := by simp [array,Json.items?]
        simp [same,required,several,accepts,keywordsAccept,keywordAccepts]
      · obtain ⟨single,reads⟩ := schema
        rw [same]
        refine forall_congr' fun there => ?_
        have asked : m.2 ∈ applied "dependencies" given (.object fs) :=
          List.mem_map.mpr ⟨m,List.mem_filter.mpr ⟨listed,by simp [Json.get?,there,single]⟩,rfl⟩
        have holds := judged.here _ member m.2 asked f.2 reads
        simp [holds,single,Json.texts,Json.elements]
  | _ => simp [keywordAccepts,Says,applied,Json.get?]

theorem firstAccept_iff {list : List Schema} {vs : List Json} :
    firstAccept follow list vs = true ↔ ∀ p ∈ list.zip vs, accepts follow p.1 p.2 = true := by
  induction list generalizing vs with
  | nil => simp [firstAccept]
  | cons s rest ih => cases vs <;> simp [firstAccept,ih]

theorem forall₂_zip_left {α β γ : Type} {R : α → β → Prop} {as : List α} {bs : List β}
    (each : List.Forall₂ R as bs) (cs : List γ) :
    List.Forall₂ (fun p q => R p.1 q.1 ∧ p.2 = q.2) (as.zip cs) (bs.zip cs) := by
  induction each generalizing cs with
  | nil => exact .nil
  | cons one _ ih =>
    cases cs with
    | nil => exact .nil
    | cons c cs => exact .cons ⟨one,rfl⟩ (ih cs)

theorem items_iff (judged : Judged S inner ms value follow sat) (member : ("items",given) ∈ ms)
    (yields : Yields (match given with
      | .array _ => do return some (.firstItems (← schemasOf S inner given))
      | _ => do return some (.items (← ofJson S inner given))) o) :
    Accepted follow value o ↔ Says ms "items" given value .ordered sat := by
  have inside := judged.inside _ member
  split at yields
  · next list =>
    obtain ⟨ss,one,yields⟩ := yields.bind
    rw [yields.pure,accepted_some]
    cases value with
    | array vs =>
      rw [keywordAccepts,firstAccept_iff]
      refine forall₂_forall (forall₂_zip_left (schemasOf_yields one) vs) ?_
      rintro ⟨s,v⟩ listed ⟨c,_⟩ ⟨reads,rfl⟩
      exact inside (s,v) listed c reads
    | _ => simp [keywordAccepts,Says,below,Json.elements,Json.items?]
  · next single =>
    obtain ⟨s,one,yields⟩ := yields.bind
    rw [yields.pure,accepted_some]
    have pairs : below ms "items" given value = value.elements.map (given,·) := by
      cases given with
      | array list => exact absurd rfl (single list)
      | _ => rfl
    rw [pairs] at inside
    simp only [Says,pairs,List.forall_mem_map]
    cases value with
    | array vs =>
      rw [keywordAccepts,List.all_eq_true]
      exact forall₂_congr fun v listed => inside _ (List.mem_map.mpr ⟨v,listed,rfl⟩) s one
    | _ => simp [keywordAccepts,Json.elements,Json.items?]

theorem below_additionalItems {first : List Json}
    (items : Json.lookup "items" ms = some (.array first)) (schema : isSchema given = true) :
    below ms "additionalItems" given value = (value.elements.drop first.length).map (given,·) := by
  simp [below,items,schema]

theorem of_mem_below_additionalItems {p : Json × Json}
    (member : p ∈ below ms "additionalItems" given value) :
    p.1 = given ∧ isSchema given = true ∧
      ∃ first, Json.lookup "items" ms = some (.array first) := by
  simp only [below] at member
  split at member
  · next first items =>
    split at member
    · next schema =>
      obtain ⟨v,_,rfl⟩ := List.mem_map.mp member
      exact ⟨rfl,schema,first,items⟩
    · cases member
  · cases member

theorem additionalItems_iff (judged : Judged S inner ms value follow sat)
    (member : ("additionalItems",given) ∈ ms)
    (yields : Yields (restKeyword ms (partOf S inner ("additionalItems",given))) o) :
    Accepted follow value o ↔ Says ms "additionalItems" given value .ordered sat := by
  have inside := judged.inside _ member
  have free := judged.free _ member
  change _ ↔ ∀ p ∈ below ms "additionalItems" given value, sat p.1 p.2
  unfold restKeyword at yields
  split at yields
  · next first items closed =>
    obtain rfl : given = .bool false := closed
    rw [yields.pure,accepted_some]
    simp only [below_additionalItems items (show isSchema (.bool false) = true from rfl),
      List.forall_mem_map] at free ⊢
    have none (v : Json) (listed : v ∈ value.elements.drop first.length) : ¬ sat (.bool false) v :=
      fun holds => Bool.noConfusion ((free v listed false rfl).mp holds)
    rw [forall₂_congr fun v listed => iff_false_intro (none v listed),
      ← List.eq_nil_iff_forall_not_mem,List.drop_eq_nil_iff]
    cases value <;> simp [keywordAccepts,Json.elements,Json.items?]
  · next first fs items single =>
    obtain rfl : given = .object fs := single
    obtain ⟨s,one,yields⟩ := yields.bind
    rw [yields.pure,accepted_some]
    simp only [below_additionalItems items (show isSchema (.object fs) = true from rfl),
      List.forall_mem_map] at inside ⊢
    cases value with
    | array vs =>
      rw [keywordAccepts,List.all_eq_true]
      exact forall₂_congr fun v listed => inside v listed s one
    | _ => simp [keywordAccepts,Json.elements,Json.items?]
  · next closed single =>
    rw [yields.pure]
    refine iff_of_true accepted_none fun p listed => ?_
    obtain ⟨same,schema,first,items⟩ := of_mem_below_additionalItems listed
    cases given with
    | bool b =>
      cases b with
      | true => exact (free p listed true same).mpr rfl
      | false => exact absurd rfl (closed first items)
    | object fs => exact absurd rfl (single first fs items)
    | _ => cases schema

end

end Schema
end ApiReview
