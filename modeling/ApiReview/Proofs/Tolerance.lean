import ApiReview.Proofs.Members
import ApiReview.Proofs.Pruning
import ApiReview.Proofs.Verdict
import ApiReview.Schema.Build

/-! The schema of schemas, and members that say nothing. What passes still passes when it has lost
some. That is found by looking through the schema of schemas along its keywords, none of which counts
schemas or asks that one fails. -/
namespace ApiReview.Schema

/-- Where there are no schemas, nothing changes. -/
def Unchanged (v v' : Json) : Prop := v' = v

theorem Unchanged.refl (v : Json) : Unchanged v v := rfl

/-- What there was and what there is under a keyword, by the position that it is. -/
def PrunedAt : Option Position → Json → Json → Prop
  | none, v, v' => v' = v
  | some .schema, v, v' => Pruned Unchanged v v'
  | some .schemas, v, v' => PrunedArray Unchanged v v'
  | some .either, v, v' =>
    if v.items?.isSome then PrunedArray Unchanged v v' else Pruned Unchanged v v'
  | some .fields, v, v' => PrunedFields Unchanged v v'

/-- The kinds that keywords admit, by the first one of them that says it. -/
def kindsIn : List Keyword → List Kind
  | .constraint (.kind kinds) :: _ => kinds
  | _ :: rest => kindsIn rest
  | [] => Kind.all

/-- What is left of a position if a value there has one of the kinds. -/
def narrow (kinds : List Kind) : Option Position → Option Position
  | some .either =>
    if !kinds.contains .array then some .schema
    else if !kinds.contains .object then some .schemas
    else some .either
  | some .schemas => if kinds.contains .array then some .schemas else none
  | some .schema => if kinds.contains .object then some .schema else none
  | some .fields => if kinds.contains .object then some .fields else none
  | none => none

/-- Whether a keyword that holds at a position still holds when members there are lost; `deeper`
tells it of the schemas inside. -/
def Keyword.tolerates (deeper : Schema → Option Position → Bool) :
    Keyword → Option Position → Bool
  | .constraint (.kind _), _ => true
  | .constraint (.size .items _ _), some .schemas => true
  | .constraint _, none => true
  | .required names, some .schema => names.all fun name => !isIdle name
  | .dependencies list, some .schema => list.all fun (_,s) => deeper s (some .schema)
  | .properties list, some .schema =>
    list.all fun (name,s) => !isUnknown name && deeper s (position? name)
  | .members [] [] s, some .fields => deeper s (some .schema)
  | .items s, some .schemas => deeper s (some .schema)
  | .items s, none => deeper s none
  | .allOf list, p => list.all (deeper · p)
  | .anyOf list, p => list.all (deeper · p)
  | _, _ => false

/-- Whether a schema tolerates the loss of members at a position, if the places of a table do so at
the positions that are promised. -/
def tolerates (promised : List (Nat × Option Position)) : Nat → Schema → Option Position → Bool
  | 0, _, _ => false
  | _ + 1, .everything, _ => true
  | _ + 1, .nothing, _ => true
  | _ + 1, .reference i, p => promised.contains (i,p)
  | n + 1, .keywords list, p =>
    list.all (·.tolerates (tolerates promised n) (narrow (kindsIn list) p))

section
variable {p : Option Position} {v v' : Json}

/-- Nothing has changed, or members have been lost somewhere inside. -/
theorem PrunedAt.cases (pruned : PrunedAt p v v') : v' = v ∨
    (∃ ms ms', v = .object ms ∧ v' = .object ms') ∨
    ∃ vs vs', v = .array vs ∧ v' = .array vs' ∧ vs'.length = vs.length := by
  have one (pruned : Pruned Unchanged v v') :
      v' = v ∨ ∃ ms ms', v = .object ms ∧ v' = .object ms' := by
    rcases pruned.cases with same | ⟨ms,ms',object,object',_⟩
    · exact .inl same
    · exact .inr ⟨ms,ms',object,object'⟩
  have several (pruned : PrunedArray Unchanged v v') :
      v' = v ∨ ∃ vs vs', v = .array vs ∧ v' = .array vs' ∧ vs'.length = vs.length := by
    rcases pruned.cases with ⟨_,same⟩ | ⟨vs,vs',array,array',items⟩
    · exact .inl same
    · exact .inr ⟨vs,vs',array,array',items.length_eq⟩
  rcases p with _ | (_ | _ | _ | _)
  · exact .inl pruned
  · exact (one pruned).imp_right .inl
  · exact (several pruned).imp_right .inr
  · rw [PrunedAt] at pruned
    split at pruned
    · exact (several pruned).imp_right .inr
    · exact (one pruned).imp_right .inl
  · rcases PrunedFields.cases pruned with ⟨_,same⟩ | ⟨ms,ms',object,object',_⟩
    · exact .inl same
    · exact .inr (.inl ⟨ms,ms',object,object'⟩)

theorem PrunedAt.has (pruned : PrunedAt p v v') (k : Kind) : k.has v' = k.has v := by
  rcases pruned.cases with rfl | ⟨ms,ms',rfl,rfl⟩ | ⟨vs,vs',rfl,rfl,_⟩
  · rfl
  · cases k <;> rfl
  · cases k <;> rfl

theorem PrunedUnder.at {name : String} (under : PrunedUnder Unchanged name v v')
    (known : isUnknown name = false) : PrunedAt (position? name) v v' := by
  unfold PrunedUnder at under
  generalize position? name = p at under ⊢
  rcases p with _ | (_ | _ | _ | _)
  · exact under.resolve_left (by simp [known])
  · exact under
  · exact under
  · exact under
  · exact under

theorem narrow_at {kinds : List Kind} (fits : kinds.any (·.has v) = true)
    (pruned : PrunedAt p v v') : PrunedAt (narrow kinds p) v v' := by
  obtain ⟨k,listed,has⟩ := List.any_eq_true.mp fits
  have array (vs : List Json) (same : v = .array vs) : kinds.contains .array = true := by
    subst same
    cases k <;> cases has
    exact List.contains_iff_mem.mpr listed
  have object (ms : List (String × Json)) (same : v = .object ms) :
      kinds.contains .object = true := by
    subst same
    cases k <;> cases has
    exact List.contains_iff_mem.mpr listed
  -- A position goes where no value of the admitted kinds has lost anything.
  rcases p with _ | (_ | _ | _ | _)
  · exact pruned
  · rw [narrow]
    split
    · exact pruned
    · next none =>
      rcases Pruned.cases pruned with same | ⟨ms,_,here,_⟩
      · exact same
      · exact absurd (object ms here) none
  · rw [narrow]
    split
    · exact pruned
    · next none =>
      rcases PrunedArray.cases pruned with ⟨_,same⟩ | ⟨vs,_,here,_⟩
      · exact same
      · exact absurd (array vs here) none
  · rw [narrow]
    split
    · next none =>
      cases v with
      | array vs =>
        rw [array vs rfl] at none
        cases none
      | _ => exact pruned
    · split
      · next _ none =>
        cases v with
        | array vs => exact pruned
        | object ms =>
          rw [object ms rfl] at none
          cases none
        | _ => exact (prunedArray_other rfl).mpr ((pruned_other rfl).mp pruned)
      · exact pruned
  · rw [narrow]
    split
    · exact pruned
    · next none =>
      rcases PrunedFields.cases pruned with ⟨_,same⟩ | ⟨ms,_,here,_⟩
      · exact same
      · exact absurd (object ms here) none

theorem kindsIn_has {follow : Nat → Json → Bool} {list : List Keyword}
    (holds : keywordsAccept follow list v = true) : (kindsIn list).any (·.has v) = true := by
  induction list with
  | nil =>
    cases v with
    | number n => cases n <;> rfl
    | _ => rfl
  | cons k rest ih =>
    rw [keywordsAccept,Bool.and_eq_true] at holds
    unfold kindsIn
    split
    · next same =>
      cases same
      exact holds.1
    · next same =>
      cases same
      exact ih holds.2
    · next same => cases same

end

/-- What is under a name now was there before. -/
theorem PrunedMembers.found {data : Json → Json → Prop} {ms ms' : List (String × Json)}
    (pruned : PrunedMembers data ms ms') {name : String} {v' : Json}
    (there : Json.lookup name ms' = some v') :
    ∃ v, (name,v) ∈ ms ∧ PrunedUnder data name v v' := by
  induction ms generalizing ms' with
  | nil =>
    rw [PrunedMembers] at pruned
    rw [pruned] at there
    cases there
  | cons m rest ih =>
    obtain ⟨k,w⟩ := m
    rcases prunedMembers_cons.mp pruned with ⟨_,later⟩ | ⟨w',rest',rfl,here,later⟩
    · obtain ⟨v,member,under⟩ := ih later there
      exact ⟨v,List.mem_cons_of_mem _ member,under⟩
    · rw [Json.lookup] at there
      split at there
      · next same =>
        cases there
        exact ⟨w,same ▸ List.mem_cons_self,same ▸ here⟩
      · obtain ⟨v,member,under⟩ := ih later there
        exact ⟨v,List.mem_cons_of_mem _ member,under⟩

/-! Soundness. -/

/-- What a schema says of a value at a position outlasts the loss of members: it is said of what is
left too, with references followed in another way. -/
def Outlasts (f g : Nat → Json → Bool) (s : Schema) (p : Option Position) : Prop :=
  ∀ v v', PrunedAt p v v' → v.Distinct → accepts f s v = true → accepts g s v' = true

def Keyword.Outlasts (f g : Nat → Json → Bool) (k : Keyword) (p : Option Position) : Prop :=
  ∀ v v', PrunedAt p v v' → v.Distinct → keywordAccepts f k v = true → keywordAccepts g k v' = true

section
variable {f g : Nat → Json → Bool}

theorem forall₂_member {α β : Type} {R : α → β → Prop} {as : List α} {bs : List β}
    (each : List.Forall₂ R as bs) {b : β} (member : b ∈ bs) : ∃ a ∈ as, R a b := by
  induction each with
  | nil => cases member
  | @cons a c as bs one _ ih =>
    rcases List.mem_cons.mp member with rfl | later
    · exact ⟨a,List.mem_cons_self,one⟩
    · obtain ⟨d,listed,same⟩ := ih later
      exact ⟨d,List.mem_cons_of_mem a listed,same⟩

namespace Keyword

/-- No loss makes another kind of value of one. -/
theorem Outlasts.kind (kinds : List Kind) (p : Option Position) :
    Outlasts f g (.constraint (.kind kinds)) p := by
  intro v v' pruned _ holds
  simp only [keywordAccepts,Constraint.accepts,pruned.has] at holds ⊢
  exact holds

/-- Arrays of schemas are as long as they were. -/
theorem Outlasts.length (side : Side) (bound : Nat) :
    Outlasts f g (.constraint (.size .items side bound)) (some .schemas) := by
  intro v v' pruned _ holds
  rcases PrunedArray.cases pruned with ⟨_,same⟩ | ⟨vs,vs',rfl,rfl,items⟩
  · cases same
    exact holds
  · simp only [keywordAccepts,Constraint.accepts,Measure.of?,items.length_eq] at holds ⊢
    exact holds

theorem Outlasts.constraint (c : Constraint) : Outlasts f g (.constraint c) none := by
  intro v v' pruned _ holds
  cases pruned
  exact holds

theorem Outlasts.required {names : List String} (busy : ∀ name ∈ names, isIdle name = false) :
    Outlasts f g (.required names) (some .schema) := by
  intro v v' pruned _ holds
  rcases Pruned.cases pruned with rfl | ⟨ms,ms',rfl,rfl,members⟩
  · cases v' <;> exact holds
  · rw [keywordAccepts,List.all_eq_true] at holds ⊢
    intro name listed
    rw [optionRel_isSome (members.lookup (busy name listed))]
    exact holds name listed

/-- A name that a schema depends on has not come up with the loss. -/
theorem Outlasts.dependencies {list : List (String × Schema)}
    (each : ∀ m ∈ list, Schema.Outlasts f g m.2 (some .schema)) :
    Outlasts f g (.dependencies list) (some .schema) := by
  intro v v' pruned distinct holds
  have whole := pruned
  cases v with
  | object ms =>
    obtain ⟨ms',rfl,members⟩ := pruned_object.mp pruned
    rw [keywordAccepts,dependenciesAccept_iff] at holds ⊢
    intro m listed there
    obtain ⟨v',found⟩ := Option.isSome_iff_exists.mp there
    obtain ⟨v,member,_⟩ := members.found found
    refine each m listed _ _ whole distinct (holds m listed ?_)
    rw [Json.lookup_of_mem distinct.1 member]
    rfl
  | _ =>
    cases (pruned_other rfl).mp pruned
    rfl

theorem Outlasts.properties {list : List (String × Schema)}
    (each : ∀ m ∈ list, isUnknown m.1 = false ∧ Schema.Outlasts f g m.2 (position? m.1)) :
    Outlasts f g (.properties list) (some .schema) := by
  intro v v' pruned distinct holds
  cases v with
  | object ms =>
    obtain ⟨ms',rfl,members⟩ := pruned_object.mp pruned
    rw [keywordAccepts,namedAccept_iff] at holds ⊢
    intro m listed v' found
    obtain ⟨v,member,under⟩ := members.found found
    obtain ⟨known,one⟩ := each m listed
    exact one v v' (under.at known) (Json.distinct_hereditary.members distinct _ member)
      (holds m listed v (Json.lookup_of_mem distinct.1 member))
  | _ =>
    cases (pruned_other rfl).mp pruned
    rfl

/-- A schema for all members of an object of schemas. -/
theorem Outlasts.members {s : Schema} (one : Schema.Outlasts f g s (some .schema)) :
    Outlasts f g (.members [] [] s) (some .fields) := by
  intro v v' pruned distinct holds
  cases v with
  | object ms =>
    obtain ⟨ms',rfl,values⟩ := prunedFields_object.mp pruned
    simp only [keywordAccepts,nameAccepts?,patternsAccept?,both?,Option.getD_none,
      List.all_eq_true] at holds ⊢
    intro m' member'
    obtain ⟨m,member,_,inside⟩ := forall₂_member (prunedValues_iff.mp values) member'
    exact one m.2 m'.2 inside (Json.distinct_hereditary.members distinct m member) (holds m member)
  | _ =>
    cases (prunedFields_other rfl).mp pruned
    rfl

theorem Outlasts.items {s : Schema} (one : Schema.Outlasts f g s (some .schema)) :
    Outlasts f g (.items s) (some .schemas) := by
  intro v v' pruned distinct holds
  cases v with
  | array vs =>
    obtain ⟨vs',rfl,items⟩ := prunedArray_array.mp pruned
    rw [keywordAccepts,List.all_eq_true] at holds ⊢
    intro w' member'
    obtain ⟨w,member,inside⟩ := forall₂_member (prunedItems_iff.mp items) member'
    exact one w w' inside (Json.distinct_hereditary.items distinct w member) (holds w member)
  | _ =>
    cases (prunedArray_other rfl).mp pruned
    rfl

/-- Items that are no schemas have lost nothing. -/
theorem Outlasts.plainItems {s : Schema} (one : Schema.Outlasts f g s none) :
    Outlasts f g (.items s) none := by
  intro v v' pruned distinct holds
  cases pruned
  cases v with
  | array vs =>
    rw [keywordAccepts,List.all_eq_true] at holds ⊢
    exact fun w member => one w w rfl (Json.distinct_hereditary.items distinct w member)
      (holds w member)
  | _ => rfl

section
variable {list : List Schema} {p : Option Position} (each : ∀ s ∈ list, Schema.Outlasts f g s p)
include each

theorem Outlasts.allOf : Outlasts f g (.allOf list) p := by
  intro v v' pruned distinct holds
  rw [keywordAccepts,allAccept_iff] at holds ⊢
  exact fun s listed => each s listed v v' pruned distinct (holds s listed)

theorem Outlasts.anyOf : Outlasts f g (.anyOf list) p := by
  intro v v' pruned distinct holds
  rw [keywordAccepts,anyAccepts_iff] at holds ⊢
  obtain ⟨s,listed,one⟩ := holds
  exact ⟨s,listed,each s listed v v' pruned distinct one⟩

end

theorem outlasts_of_tolerates {deeper : Schema → Option Position → Bool} {p : Option Position}
    (sound : ∀ s p, deeper s p = true → Schema.Outlasts f g s p) {k : Keyword}
    (check : k.tolerates deeper p = true) : Outlasts f g k p := by
  unfold Keyword.tolerates at check
  split at check
  case h_1 => exact .kind _ _
  case h_2 side bound => exact .length side bound
  case h_3 c _ => exact .constraint c
  case h_4 names =>
    exact .required fun name listed => by simpa using List.all_eq_true.mp check name listed
  case h_5 list =>
    exact .dependencies fun m listed => sound m.2 _ (List.all_eq_true.mp check m listed)
  case h_6 list =>
    refine .properties fun m listed => ?_
    have one := List.all_eq_true.mp check m listed
    simp only [Bool.and_eq_true,Bool.not_eq_true'] at one
    exact ⟨one.1,sound m.2 _ one.2⟩
  case h_7 s => exact .members (sound s _ check)
  case h_8 s => exact .items (sound s _ check)
  case h_9 s => exact .plainItems (sound s _ check)
  case h_10 list _ => exact .allOf fun s listed => sound s p (List.all_eq_true.mp check s listed)
  case h_11 list _ => exact .anyOf fun s listed => sound s p (List.all_eq_true.mp check s listed)
  case h_12 => cases check

end Keyword

theorem outlasts_of_tolerates {promised : List (Nat × Option Position)}
    (references : ∀ i p v v', promised.contains (i,p) = true → PrunedAt p v v' → v.Distinct →
      f i v = true → g i v' = true) {n : Nat} {s : Schema} {p : Option Position}
    (check : tolerates promised n s p = true) : Outlasts f g s p := by
  induction n generalizing s p with
  | zero => cases check
  | succ n ih =>
    intro v v' pruned distinct holds
    cases s with
    | everything => rfl
    | nothing => cases holds
    | reference i => exact references i p v v' check pruned distinct holds
    | keywords list =>
      rw [accepts] at holds ⊢
      have narrowed := narrow_at (kindsIn_has holds) pruned
      rw [keywordsAccept_iff] at holds ⊢
      exact fun k listed => Keyword.outlasts_of_tolerates (fun _ _ => ih)
        (List.all_eq_true.mp check k listed) v v' narrowed distinct (holds k listed)

end

/-- What is accepted with references followed so far is still accepted when members are lost, with
references followed no further. -/
theorem acceptsWithin_tolerates {table : Array Schema} {promised : List (Nat × Option Position)}
    {most : Nat}
    (kept : ∀ e ∈ promised, tolerates promised most (Validator.target table e.1) e.2 = true)
    {k l : Nat} (fewer : l ≤ k) {i : Nat} {p : Option Position} {v v' : Json}
    (listed : promised.contains (i,p) = true) (pruned : PrunedAt p v v') (distinct : v.Distinct)
    (holds : Validator.acceptsWithin table k i v = true) :
    Validator.acceptsWithin table l i v' = true := by
  induction l generalizing k i p v v' with
  | zero => rfl
  | succ l ih =>
    obtain ⟨k,rfl⟩ : ∃ m, k = m + 1 := ⟨k - 1,by omega⟩
    have less : l ≤ k := Nat.le_of_succ_le_succ fewer
    exact outlasts_of_tolerates (f := Validator.acceptsWithin table k) (fun i p v v' => ih less)
      (kept (i,p) (List.contains_iff_mem.mp listed)) v v' pruned distinct holds

/-- What the table of the schema of schemas holds at the positions where it is referred to. -/
def promised : List (Nat × Option Position) :=
  [(0,none),(1,none),(2,some .schema),(2,some .either),(3,some .schemas),(3,some .either),
    (4,none),(4,some .schema),(5,none)]

def Validator.tolerant (w : Validator) : Bool :=
  tolerates promised 9 w.root (some .schema) &&
    promised.all fun e => tolerates promised 9 (target w.table e.1) e.2

theorem metaschema_tolerant : metaschema.toOption.any (·.tolerant) = true := by
  decide +kernel

theorem Validator.tolerant_sound {w : Validator} (tolerant : w.tolerant = true) {v v' : Json}
    (pruned : Pruned Unchanged v v') (distinct : v.Distinct) (holds : w.accepts v = true) :
    w.accepts v' = true := by
  obtain ⟨root,kept⟩ := Bool.and_eq_true_iff.mp tolerant
  have flat (v v' : Json) (same : Unchanged v v') : v'.depth ≤ v.depth := Nat.le_of_eq (same ▸ rfl)
  have fewer : w.rounds v' ≤ w.rounds v :=
    Nat.mul_le_mul_left _ (Nat.succ_le_succ (pruned.depth_le flat))
  exact outlasts_of_tolerates (fun i p v v' => acceptsWithin_tolerates (List.all_eq_true.mp kept) fewer)
    root v v' pruned distinct holds

theorem check_ok_iff {v : Json} :
    check v = .ok () ↔ ∃ w, metaschema = .ok w ∧ w.accepts v = true := by
  unfold check
  rw [Success.bind_iff]
  refine exists_congr fun w => and_congr_right fun _ => ?_
  rw [← Validator.findings_eq_nil_iff,Validator.findings,List.map_eq_nil_iff]
  cases w.faults v with
  | nil => exact iff_of_true rfl rfl
  | cons fault rest =>
    refine iff_of_false (fun done => ?_) (List.cons_ne_nil fault rest)
    cases done

/-- A schema that can be used is still one when it has lost members that say nothing. -/
theorem check_pruned {schema schema' : Json} (pruned : Pruned Unchanged schema schema')
    (distinct : schema.Distinct) (fine : check schema = .ok ()) : check schema' = .ok () := by
  obtain ⟨w,built,holds⟩ := check_ok_iff.mp fine
  have tolerant := metaschema_tolerant
  rw [built] at tolerant
  exact check_ok_iff.mpr ⟨w,built,w.tolerant_sound tolerant pruned distinct holds⟩

end ApiReview.Schema
