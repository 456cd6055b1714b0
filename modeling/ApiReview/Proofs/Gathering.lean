import ApiReview.Proofs.Inside

/-! Schemas that stand by themselves. One that declares no identifiers, and whose references stay
inside or lead to the schema of schemas, asks for no other document. -/
namespace ApiReview.Schema

/-- A reference inside a document, or to the schema of a draft. -/
def isNear (text : String) : Bool := text.startsWith "#" || isDraft text

/-- An object that declares no identifier and has near references alone. -/
def standsHere (ms : List (String × Json)) : Bool :=
  (stringMember? "id" ms).isNone && (stringMember? "$ref" ms).all isNear &&
    (stringMember? "$schema" ms).all isNear

mutual

/-- All objects inside, wherever they are, declare no identifiers and have near references. -/
def stands : Json → Bool
  | .object ms => standsHere ms && membersStand ms
  | .array vs => itemsStand vs
  | _ => true

def itemsStand : List Json → Bool
  | [] => true
  | v :: rest => stands v && itemsStand rest

def membersStand : List (String × Json) → Bool
  | [] => true
  | (_, v) :: rest => stands v && membersStand rest

end

theorem itemsStand_iff {vs : List Json} : itemsStand vs = true ↔ ∀ v ∈ vs, stands v = true := by
  induction vs with
  | nil => simp [itemsStand]
  | cons v rest ih => simp [itemsStand,ih]

theorem membersStand_iff {ms : List (String × Json)} :
    membersStand ms = true ↔ ∀ m ∈ ms, stands m.2 = true := by
  induction ms with
  | nil => simp [membersStand]
  | cons m rest ih => obtain ⟨_,v⟩ := m; simp [membersStand,ih]

/-- A survey that finds nothing but pointers into the same document. -/
def OnlyPointers (found : Except Error Survey) : Prop := ∃ ps, found = .ok { pointers := ps }

theorem onlyPointers_empty : OnlyPointers (.ok {}) := ⟨[],rfl⟩

theorem onlyPointers_append {x y : Except Error Survey} (left : OnlyPointers x)
    (right : OnlyPointers y) : OnlyPointers (do return (← x) ++ (← y)) := by
  obtain ⟨ps,rfl⟩ := left
  obtain ⟨qs,rfl⟩ := right
  exact ⟨ps ++ qs,rfl⟩

theorem onlyPointers_each {α : Type} {f : α → Except Error Survey} {list : List α}
    (each : ∀ a ∈ list, OnlyPointers (f a)) (first : List String) : OnlyPointers (do
      return (← list.mapM f).foldl (· ++ ·) { pointers := first }) := by
  obtain ⟨found,done,plain⟩ : ∃ found, list.mapM f = .ok found ∧
      ∀ g ∈ found, ∃ ps, g = { pointers := ps } := by
    induction list with
    | nil => exact ⟨[],rfl,by simp⟩
    | cons a rest ih =>
      obtain ⟨ps,one⟩ := each a List.mem_cons_self
      obtain ⟨found,done,plain⟩ := ih fun b later => each b (List.mem_cons_of_mem a later)
      refine ⟨{ pointers := ps } :: found,?_,?_⟩
      · rw [List.mapM_cons,one,done]
        rfl
      · simpa using plain
  rw [done]
  clear done
  induction found generalizing first with
  | nil => exact ⟨first,rfl⟩
  | cons g rest ih =>
    obtain ⟨ps,rfl⟩ := plain g List.mem_cons_self
    exact ih (first ++ ps) fun h later => plain h (List.mem_cons_of_mem _ later)

section
variable {ms : List (String × Json)}

theorem baseWithin_stands (here : standsHere ms = true) (base : Uri) :
    baseWithin base ms = .ok base := by
  have none : selfId? ms = none := by
    simp only [standsHere,Bool.and_eq_true,Option.isNone_iff_eq_none] at here
    simp [selfId?,here.1.1]
  rw [baseWithin,none]
  rfl

theorem surveyReference_near (base : Uri) {text : String} (near : isNear text = true) :
    OnlyPointers (surveyReference base text) := by
  unfold surveyReference
  split
  · exact onlyPointers_empty
  · next far =>
    split
    · next pointer _ => exact ⟨_,rfl⟩
    · next other =>
      simp only [Bool.or_eq_true,not_or] at far
      simp only [isNear,far.1.1,Bool.or_false,String.startsWith_string_iff] at near
      obtain ⟨rest,same⟩ := near
      exact absurd same.symm (other rest)

theorem surveySelf_stands (here : standsHere ms = true) (base : Uri) :
    OnlyPointers (surveySelf base ms) := by
  simp only [standsHere,Bool.and_eq_true,Option.isNone_iff_eq_none] at here
  obtain ⟨⟨id,ref⟩,schema⟩ := here
  have nothing : (if (selfId? ms).isSome then [(base.text,Json.object ms)] else []) = [] ∧
      (anchor? ms).toList = [] := by simp [selfId?,anchor?,id]
  simp only [surveySelf,nothing.1,nothing.2,List.map_nil]
  refine onlyPointers_each (fun text member => ?_) []
  refine surveyReference_near base ?_
  obtain ⟨name,listed,value⟩ := List.mem_filterMap.mp member
  simp only [List.mem_cons,List.not_mem_nil,or_false] at listed
  rcases listed with rfl | rfl
  · simpa [value] using ref
  · simpa [value] using schema

end

/-- What stands inside a schema that stands by itself does so too. -/
theorem stands_hereditary : Json.Hereditary (stands · = true) := by
  rintro v w (item | ⟨m,member,rfl⟩) holds
  · cases w with
    | array vs => exact itemsStand_iff.mp holds v item
    | _ => cases item
  · cases w with
    | object ms =>
      simp only [stands,Bool.and_eq_true] at holds
      exact membersStand_iff.mp holds.2 m member
    | _ => cases member

theorem onlyPointers_additive : Additive OnlyPointers := ⟨onlyPointers_empty,onlyPointers_append⟩

theorem survey_stands (base : Uri) {v : Json} (holds : stands v = true) :
    OnlyPointers (survey base v) := by
  have here {ms : List (String × Json)} (holds : stands (.object ms) = true) :
      standsHere ms = true := by
    simp only [stands,Bool.and_eq_true] at holds
    exact holds.1
  refine onlyPointers_additive.survey (P := (stands · = true)) (fun ms holds m member w under => ?_)
    (fun ms holds => surveySelf_stands (here holds)) (fun ms holds base e failed => ?_) holds base
  · exact schemasUnder_inside stands_hereditary
      (stands_hereditary _ _ (Json.child_of_member member) holds) under
  · cases failed.symm.trans (baseWithin_stands (here holds) base)

theorem surveyAll_stands {p : Pending} (holds : stands p.schema = true) :
    OnlyPointers (surveyAll p) := by
  have join {found later : Except Error Survey} (one : OnlyPointers found)
      (two : OnlyPointers later) : OnlyPointers (do
        let found ← found
        let others ← later
        return { found with documents := [], anchors := [] } ++ { others with pointers := [] }) := by
    obtain ⟨ps,rfl⟩ := one
    obtain ⟨qs,rfl⟩ := two
    exact ⟨_,rfl⟩
  obtain ⟨ps,found⟩ := survey_stands p.base holds
  have others : OnlyPointers (surveyPointers p.base p.schema memoryLimit [] ps) := by
    refine surveyPointers_induct onlyPointers_empty (fun _ here v _ led later kept => ?_) memoryLimit
      [] fun _ => .here found
    obtain ⟨qs,inner⟩ := survey_stands here (follow_inside stands_hereditary holds led)
    rw [inner]
    exact join ⟨qs,rfl⟩ (kept _ inner)
  unfold surveyAll
  rw [found]
  exact onlyPointers_append ⟨ps,rfl⟩ others

/-- A schema that stands by itself is gathered without a request. -/
theorem gatherFor_stands (retrieve : String → Except String Json) {schema : Json}
    (holds : stands schema = true) : gatherFor retrieve schema = .ok { draftResources with
      documents := (defaultBase.text,schema) :: draftResources.documents } := by
  have base : baseWithin defaultBase ((schema.members?).getD []) = .ok defaultBase := by
    cases schema with
    | object ms =>
      simp only [stands,Bool.and_eq_true] at holds
      exact baseWithin_stands holds.1 defaultBase
    | _ => rfl
  obtain ⟨ps,found⟩ := surveyAll_stands (p := ⟨defaultBase,schema⟩) holds
  rw [gatherFor_once retrieve base,found]
  · rfl
  · rintro s surveyed
    cases found.symm.trans surveyed
    rfl

end ApiReview.Schema
