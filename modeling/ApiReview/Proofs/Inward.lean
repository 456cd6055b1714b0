import ApiReview.Proofs.Twins

/-! Schemas whose references stay inside. What a schema asks for when its documents are gathered is
told by the schemas that stand in it where keywords have them, and by what its pointers lead to. -/
namespace ApiReview.Schema

/-- A schema stands in another one, however deep, where keywords have schemas. -/
inductive Nested : Json → Json → Prop where
  | self (v : Json) : Nested v v
  | inside {ms : List (String × Json)} {m : String × Json} {s w : Json} : m ∈ ms →
    s ∈ schemasUnder m.1 m.2 → Nested s w → Nested (.object ms) w

/-- The references of one schema by itself: each is a fragment, or names the schema of a draft, as
the dialect of a schema commonly does. -/
def NearHere (ms : List (String × Json)) : Prop :=
  ∀ name ∈ ["$ref","$schema"], ∀ text, stringMember? name ms = some text → isNear text = true

/-- All references in a schema are near. Values of keywords that hold no schemas do not count. -/
def Near (v : Json) : Prop := ∀ ms, Nested v (.object ms) → NearHere ms

/-- References stay inside, those in the schema and those in what its pointers lead to. -/
structure Inward (schema : Json) : Prop where
  own : Near schema
  led : ∀ p, Sought defaultBase schema p → ∀ here v, follow p defaultBase schema = .ok (here,v) →
    Near v

/-- A survey that asks for no other document, if it comes to a result. -/
def AsksNothing (found : Except Error Survey) : Prop := ∀ s, found = .ok s → s.references = []

theorem asksNothing_additive : Additive AsksNothing where
  empty := by
    rintro s ⟨⟩
    rfl
  append one two s done := by
    obtain ⟨a,first,done⟩ := Success.bind_iff.mp done
    obtain ⟨b,second,⟨⟩⟩ := Success.bind_iff.mp done
    exact List.append_eq_nil_iff.mpr ⟨one a first,two b second⟩

theorem references_foldl (list : List Survey) (first : Survey) :
    (list.foldl (· ++ ·) first).references = first.references ++ list.flatMap (·.references) := by
  induction list generalizing first with
  | nil => simp
  | cons s rest ih =>
    rw [List.foldl_cons,ih,List.flatMap_cons,← List.append_assoc]
    rfl

section
variable {base : Uri} {ms : List (String × Json)} {v : Json}

theorem surveySelf_near (near : NearHere ms) (base : Uri) : AsksNothing (surveySelf base ms) := by
  intro s done
  obtain ⟨referred,each,⟨⟩⟩ := Success.bind_iff.mp done
  rw [references_foldl,List.nil_append,List.flatMap_eq_nil_iff]
  intro t member
  obtain ⟨text,listed,one⟩ := Success.mem_mapM each member
  obtain ⟨name,known,value⟩ := List.mem_filterMap.mp listed
  obtain ⟨ps,same⟩ := surveyReference_near base (near name known text value)
  cases one.symm.trans same
  rfl

theorem Near.under (near : Near (.object ms)) {m : String × Json} (member : m ∈ ms) {w : Json}
    (under : w ∈ schemasUnder m.1 m.2) : Near w :=
  fun inner nested => near inner (.inside member under nested)

theorem survey_near (near : Near v) (base : Uri) : AsksNothing (survey base v) := by
  refine asksNothing_additive.survey (P := Near) (fun ms near m member w => near.under member)
    (fun ms near => surveySelf_near (near ms (.self _))) (fun _ _ _ _ _ _ failed => ?_) near base
  cases failed

end

/-! Gathering asks for nothing. -/

section
variable {schema : Json} (inward : Inward schema)
include inward

theorem surveyPointers_inward (n : Nat) (seen : List String) {pointers : List String}
    (sought : ∀ p ∈ pointers, Sought defaultBase schema p) :
    AsksNothing (surveyPointers defaultBase schema n seen pointers) := by
  refine surveyPointers_induct asksNothing_additive.empty (fun p here v due led later kept s done => ?_) n seen sought
  obtain ⟨found,one,done⟩ := Success.bind_iff.mp done
  obtain ⟨others,two,⟨⟩⟩ := Success.bind_iff.mp done
  exact List.append_eq_nil_iff.mpr
    ⟨survey_near (inward.led p due here v led) here found one,kept found one others two⟩

theorem surveyAll_inward : AsksNothing (surveyAll ⟨defaultBase,schema⟩) := by
  intro s done
  obtain ⟨found,one,done⟩ := Success.bind_iff.mp done
  obtain ⟨others,two,⟨⟩⟩ := Success.bind_iff.mp done
  exact List.append_eq_nil_iff.mpr ⟨survey_near inward.own defaultBase found one,
    surveyPointers_inward inward memoryLimit [] (fun p member => .here one member) others two⟩

end

/-! Schemas that stand by themselves are of this kind. -/

theorem Nested.stands {v w : Json} (nested : Nested v w) (holds : stands v = true) :
    Schema.stands w = true := by
  induction nested with
  | self => exact holds
  | @inside ms m s w member under _ ih =>
    exact ih (schemasUnder_inside stands_hereditary
      (stands_hereditary _ _ (Json.child_of_member member) holds) under)

theorem near_of_stands {v : Json} (holds : stands v = true) : Near v := by
  intro ms nested name known text value
  have here := nested.stands holds
  simp only [stands,standsHere,Bool.and_eq_true] at here
  obtain ⟨⟨⟨_,ref⟩,schema⟩,_⟩ := here
  simp only [List.mem_cons,List.not_mem_nil,or_false] at known
  rcases known with rfl | rfl
  · simpa [value] using ref
  · simpa [value] using schema

theorem inward_of_stands {schema : Json} (holds : stands schema = true) : Inward schema :=
  ⟨near_of_stands holds,fun _ _ _ _ led => near_of_stands (follow_inside stands_hereditary holds led)⟩

/-- Whether all references in a schema are near, as far down as is looked. -/
def nearWithin : Nat → Json → Bool
  | n + 1, .object ms =>
    (["$ref","$schema"].all fun name => (stringMember? name ms).all isNear) &&
      ms.all fun m => (schemasUnder m.1 m.2).all (nearWithin n)
  | n, _ => n != 0

theorem near_of_within {n : Nat} {v : Json} (check : nearWithin n v = true) : Near v := by
  intro inner nested
  generalize held : Json.object inner = w at nested
  induction nested generalizing n with
  | self v =>
    subst held
    cases n with
    | zero => cases check
    | succ n =>
      have here := (Bool.and_eq_true_iff.mp check).1
      intro name known text value
      have near := List.all_eq_true.mp here name known
      rwa [value] at near
  | inside member under _ ih =>
    cases n with
    | zero => cases check
    | succ n =>
      have each := List.all_eq_true.mp (Bool.and_eq_true_iff.mp check).2 _ member
      exact ih (List.all_eq_true.mp each _ under) held

end ApiReview.Schema
