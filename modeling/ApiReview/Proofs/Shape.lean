import ApiReview.Schema.Validator
import ApiReview.Proofs.Spelled
import ApiReview.Proofs.Tree

/-! Shapes that a schema forces. Whether all accepted values have a shape is found by looking
through the schema alone, along the keywords that can tell. -/
namespace ApiReview.Schema

/-- Members that are spoken of together, by their names. -/
inductive Names where
  | named (names : List String)
  | starting (front : String)
  | others (front : String)

def Names.has : Names → String → Bool
  | .named names, s => names.contains s
  | .starting front, s => s.startsWith front
  | .others front, s => !s.startsWith front

inductive Shape where
  | kind (k : Kind)
  /-- All items of an array. -/
  | items (item : Shape)
  /-- All such members of an object. -/
  | members (which : Names) (member : Shape)
  /-- An object without a member of this name. -/
  | without (name : String) (shape : Shape)
  | both (a b : Shape)

def Shape.Holds : Shape → Json → Prop
  | .kind k, v => k.has v = true
  | .items item, v => ∀ vs, v = .array vs → ∀ w ∈ vs, item.Holds w
  | .members which member, v => ∀ ms, v = .object ms → ∀ m ∈ ms, which.has m.1 = true →
    member.Holds m.2
  | .without name shape, v => ∀ ms, v = .object ms → Json.lookup name ms = none → shape.Holds v
  | .both a b, v => a.Holds v ∧ b.Holds v

/-- A member that is spoken of by its name has its shape. -/
theorem Shape.Holds.get? {names : List String} {member : Shape} {v w : Json} {name : String}
    (holds : (Shape.members (.named names) member).Holds v) (known : name ∈ names)
    (found : v.get? name = some w) : member.Holds w := by
  obtain ⟨ms,rfl,found⟩ := Json.get?_eq_some_iff.mp found
  exact holds ms rfl (name,w) (Json.mem_of_lookup found) (List.contains_iff_mem.mpr known)

/-- The schemas that a member has to satisfy for its name. -/
def schemasFor (named : List (String × Schema)) (matching : List (Pattern × Schema))
    (name : String) : List Schema :=
  ((named.find? (·.1 = name)).toList.map (·.2)) ++
    (matching.filter (·.1.matches name)).map (·.2)

/-- Whether a shape is forced on all such members, by the schemas for their names. -/
def membersForce (deeper : Schema → Shape → Bool) (named : List (String × Schema))
    (matching : List (Pattern × Schema)) (member : Shape) : Names → Bool
  | .named names => names.all fun name =>
    let known := schemasFor named matching name
    known.isEmpty || known.any (deeper · member)
  | .starting front => matching.any fun (p,s) => p.begins front && deeper s member
  | .others front =>
    (named.all fun (_,s) => deeper s member) &&
      matching.all fun (p,s) => p.begins front || deeper s member

/-- Whether a keyword forces a shape; `deeper` tells it of the schemas inside. -/
def Keyword.forces (deeper : Schema → Shape → Bool) : Keyword → Shape → Bool
  | .constraint (.kind kinds), .kind k => kinds.all (· = k)
  | .required names, .without name _ => names.contains name
  | .items s, .items item => deeper s item
  | .onlyMembers named matching, .members which member =>
    membersForce deeper named matching member which
  | .allOf list, shape => list.any (deeper · shape)
  | .oneOf list, shape => list.all (deeper · shape)
  | _, _ => false

/-- Whether a schema forces a shape, with its references followed once in a table. -/
def forcesOnce (table : Array Schema) (deeper : Schema → Shape → Bool) : Schema → Shape → Bool
  | s, .both a b => deeper s a && deeper s b
  | .reference i, shape => deeper (Validator.target table i) shape
  | .keywords list, .without name shape =>
    deeper (.keywords list) shape || list.any (·.forces deeper (.without name shape))
  | .keywords list, shape => list.any (·.forces deeper shape)
  | _, _ => false

def forces (table : Array Schema) : Nat → Schema → Shape → Bool
  | 0, _, _ => false
  | n + 1, s, shape => forcesOnce table (forces table n) s shape

section
variable {follow : Nat → Json → Bool} {name : String} {v : Json}

theorem nameAccepts?_eq (named : List (String × Schema)) :
    nameAccepts? follow named name v =
      (named.find? (·.1 = name)).map fun m => accepts follow m.2 v := by
  induction named with
  | nil => rfl
  | cons m rest ih =>
    obtain ⟨k,s⟩ := m
    by_cases same : k = name <;> simp [nameAccepts?,same,ih]

theorem patternsAccept?_eq (matching : List (Pattern × Schema)) :
    patternsAccept? follow matching name v =
      let hits := (matching.filter (·.1.matches name)).map (·.2)
      if hits.isEmpty then none else some (hits.all (accepts follow · v)) := by
  induction matching with
  | nil => rfl
  | cons m rest ih =>
    obtain ⟨p,s⟩ := m
    by_cases hit : p.matches name = true
    · simp only [patternsAccept?,hit,if_true,List.filter_cons,List.map_cons,List.all_cons,ih]
      by_cases none : ((rest.filter (·.1.matches name)).map (·.2)).isEmpty = true
      · simp [both?,List.isEmpty_iff.mp none]
      · simp [both?,none]
    · simp only [patternsAccept?,hit,List.filter_cons,ih]
      rfl

/-- A member is accepted for its name if there is a schema for it and all such schemas hold. -/
theorem known_iff (named : List (String × Schema)) (matching : List (Pattern × Schema)) :
    both? (nameAccepts? follow named name v) (patternsAccept? follow matching name v) = some true ↔
      schemasFor named matching name ≠ [] ∧
        ∀ s ∈ schemasFor named matching name, accepts follow s v = true := by
  rw [nameAccepts?_eq,patternsAccept?_eq,schemasFor]
  generalize (matching.filter (·.1.matches name)).map (·.2) = hits
  cases named.find? (·.1 = name) with
  | none => cases hits <;> simp [both?]
  | some m => cases hits <;> simp [both?]

end

section
variable {deeper : Schema → Shape → Bool} {follow : Nat → Json → Bool}

theorem acceptCount_pos {list : List Schema} {v : Json} (some : acceptCount follow list v ≠ 0) :
    ∃ s ∈ list, accepts follow s v = true := by
  induction list with
  | nil => exact absurd rfl some
  | cons s rest ih =>
    by_cases here : accepts follow s v = true
    · exact ⟨s,List.mem_cons_self,here⟩
    · obtain ⟨t,later,holds⟩ := ih (by simpa [acceptCount,here] using some)
      exact ⟨t,List.mem_cons_of_mem s later,holds⟩

theorem allAccept_iff {list : List Schema} {v : Json} :
    allAccept follow list v = true ↔ ∀ s ∈ list, accepts follow s v = true := by
  induction list with
  | nil => simp [allAccept]
  | cons s rest ih => simp [allAccept,ih]

theorem membersForce_sound {named : List (String × Schema)} {matching : List (Pattern × Schema)}
    {member : Shape} {which : Names} {name : String} {v : Json}
    (sound : ∀ s, deeper s member = true → accepts follow s v = true → member.Holds v)
    (check : membersForce deeper named matching member which = true) (has : which.has name = true)
    (some : schemasFor named matching name ≠ [])
    (all : ∀ s ∈ schemasFor named matching name, accepts follow s v = true) : member.Holds v := by
  have hit (p : Pattern) (s : Schema) (listed : (p,s) ∈ matching) (fits : p.matches name = true) :
      s ∈ schemasFor named matching name :=
    List.mem_append_right _ (List.mem_map.mpr ⟨(p,s),List.mem_filter.mpr ⟨listed,fits⟩,rfl⟩)
  cases which with
  | named names =>
    simp only [membersForce,List.all_eq_true,Bool.or_eq_true,List.isEmpty_iff,
      List.any_eq_true] at check
    obtain ⟨s,listed,forced⟩ := (check name (List.contains_iff_mem.mp has)).resolve_left some
    exact sound s forced (all s listed)
  | starting front =>
    simp only [membersForce,List.any_eq_true,Bool.and_eq_true] at check
    obtain ⟨⟨p,s⟩,listed,begins,forced⟩ := check
    exact sound s forced (all s (hit p s listed ((Pattern.matches_begins begins name).trans has)))
  | others front =>
    simp only [membersForce,Bool.and_eq_true,List.all_eq_true,Bool.or_eq_true] at check
    obtain ⟨s,known⟩ := List.exists_mem_of_ne_nil _ some
    refine sound s ?_ (all s known)
    rcases List.mem_append.mp known with own | fits
    · obtain ⟨m,first,rfl⟩ := List.mem_map.mp own
      exact check.1 m (List.mem_of_find?_eq_some (Option.mem_toList.mp first))
    · obtain ⟨⟨p,t⟩,found,rfl⟩ := List.mem_map.mp fits
      obtain ⟨listed,fits⟩ := List.mem_filter.mp found
      rcases check.2 _ listed with begins | forced
      · have front := (Pattern.matches_begins begins name).symm.trans fits
        simp [Names.has,front] at has
      · exact forced

theorem Keyword.forces_sound (sound : ∀ s shape v, deeper s shape = true →
      accepts follow s v = true → shape.Holds v) {k : Keyword} {shape : Shape} {v : Json}
    (check : k.forces deeper shape = true) (holds : keywordAccepts follow k v = true) :
    shape.Holds v := by
  unfold Keyword.forces at check
  split at check
  · next kinds k =>
    simp only [keywordAccepts,Constraint.accepts,List.any_eq_true] at holds
    obtain ⟨l,listed,has⟩ := holds
    obtain rfl := of_decide_eq_true (List.all_eq_true.mp check l listed)
    exact has
  · next names name shape =>
    rintro ms rfl absent
    have present := List.all_eq_true.mp holds name (List.contains_iff_mem.mp check)
    simp [absent] at present
  · next s item =>
    rintro vs rfl w inside
    exact sound s item w check (List.all_eq_true.mp holds w inside)
  · next named matching which member =>
    rintro ms rfl ⟨name,w⟩ inside has
    simp only [keywordAccepts,List.all_eq_true] at holds
    have known := holds (name,w) inside
    rw [Option.getD_eq_iff] at known
    obtain ⟨some,all⟩ := (known_iff named matching).mp (by simpa using known)
    exact membersForce_sound (fun s => sound s member w) check has some all
  · next list shape =>
    obtain ⟨s,listed,forced⟩ := List.any_eq_true.mp check
    exact sound s _ v forced (allAccept_iff.mp holds s listed)
  · next list shape =>
    simp only [keywordAccepts,beq_iff_eq] at holds
    obtain ⟨s,listed,one⟩ := acceptCount_pos (holds ▸ Nat.one_ne_zero)
    exact sound s _ v (List.all_eq_true.mp check s listed) one
  · cases check

theorem keywordsAccept_iff {list : List Keyword} {v : Json} :
    keywordsAccept follow list v = true ↔ ∀ k ∈ list, keywordAccepts follow k v = true := by
  induction list with
  | nil => simp [keywordsAccept]
  | cons k rest ih => simp [keywordsAccept,ih]

theorem Keyword.any_forces_sound (sound : ∀ s shape v, deeper s shape = true →
      accepts follow s v = true → shape.Holds v) {list : List Keyword} {shape : Shape} {v : Json}
    (check : list.any (·.forces deeper shape) = true)
    (holds : accepts follow (.keywords list) v = true) : shape.Holds v := by
  obtain ⟨k,listed,forced⟩ := List.any_eq_true.mp check
  exact k.forces_sound sound forced (keywordsAccept_iff.mp holds k listed)

end

/-- What is accepted has the shapes that are forced, if references are followed far enough. -/
theorem forces_sound {table : Array Schema} {n m : Nat} (enough : n ≤ m) {s : Schema}
    {shape : Shape} {v : Json} (check : forces table n s shape = true)
    (holds : s.accepts (Validator.acceptsWithin table m) v = true) : shape.Holds v := by
  induction n generalizing m s shape v with
  | zero => cases check
  | succ n ih =>
    have sound (s : Schema) (shape : Shape) (v : Json) (forced : forces table n s shape = true)
        (holds : s.accepts (Validator.acceptsWithin table m) v = true) : shape.Holds v :=
      ih (by omega) forced holds
    rw [forces] at check
    unfold forcesOnce at check
    split at check
    · simp only [Bool.and_eq_true] at check
      exact ⟨sound _ _ v check.1 holds,sound _ _ v check.2 holds⟩
    · obtain ⟨m,rfl⟩ : ∃ k, m = k + 1 := ⟨m - 1,by omega⟩
      exact ih (by omega) check holds
    · next list name shape =>
      rcases Bool.or_eq_true _ _ ▸ check with forced | forced
      · exact fun _ _ _ => sound _ _ v forced holds
      · exact Keyword.any_forces_sound sound forced holds
    · exact Keyword.any_forces_sound sound check holds
    · cases check

/-- What a validator accepts has the shapes that its schema forces. -/
theorem Validator.forces_sound {validator : Validator} {shape : Shape} {document : Json}
    (check : forces validator.table validator.table.size validator.root shape = true)
    (holds : validator.accepts document = true) : shape.Holds document := by
  refine Schema.forces_sound ?_ check holds
  calc validator.table.size ≤ (validator.table.size + 1) * 1 := by omega
    _ ≤ validator.rounds document := Nat.mul_le_mul_left _ (by omega)

end ApiReview.Schema
