import ApiReview.Proofs.Asking
import ApiReview.Proofs.Faults

/-! Schemas that cannot be told apart by what they accept and where they find faults. What is said of
a fault may differ. -/
namespace ApiReview.Schema

def places (fs : List Fault) : List Pointer := fs.map (·.place)

@[simp] theorem places_append (fs gs : List Fault) : places (fs ++ gs) = places fs ++ places gs :=
  List.map_append

@[simp] theorem places_demand (holds : Bool) (here : Pointer) (failure : Failure) :
    places (demand holds here failure) = if holds then [] else [here] := by
  cases holds <;> rfl

/-- References are followed to the same verdicts, and to faults at the same places. -/
structure Following.Alike (f f' : Following) : Prop where
  accepts : f'.accepts = f.accepts
  places : ∀ i here v, places (f'.faults i here v) = places (f.faults i here v)

structure Alike (s s' : Schema) : Prop where
  accepts : ∀ follow v, accepts follow s' v = accepts follow s v
  places : ∀ {f f' : Following}, f.Alike f' → ∀ here v,
    places (faults f' s' here v) = places (faults f s here v)

structure Keyword.Alike (k k' : Keyword) : Prop where
  accepts : ∀ follow v, keywordAccepts follow k' v = keywordAccepts follow k v
  places : ∀ {f f' : Following}, f.Alike f' → ∀ here v,
    places (keywordFaults f' k' here v) = places (keywordFaults f k here v)

/-- Under the same keys, in the same order, stand schemas that cannot be told apart. -/
inductive FieldsAlike {κ : Type} : List (κ × Schema) → List (κ × Schema) → Prop where
  | nil : FieldsAlike [] []
  | cons {k : κ} {s s' : Schema} {rest rest' : List (κ × Schema)} : Alike s s' →
    FieldsAlike rest rest' → FieldsAlike ((k,s) :: rest) ((k,s') :: rest')

/-! Schemas without schemas in them. -/

theorem Alike.everything : Alike .everything .everything := ⟨fun _ _ => rfl,fun _ _ _ => rfl⟩

theorem Alike.nothing : Alike .nothing .nothing := ⟨fun _ _ => rfl,fun _ _ _ => rfl⟩

theorem Alike.reference (i : Nat) : Alike (.reference i) (.reference i) :=
  ⟨fun _ _ => rfl,fun same here v => same.places i here v⟩

/-! Keywords with schemas in them. -/

theorem Listwise.places : Listwise fun fs fs' => places fs' = places fs :=
  ⟨fun _ => rfl,fun one two => by rw [places_append,places_append,one,two]⟩

/-- Wherever references are followed alike, schemas that cannot be told apart come to the same. -/
theorem Alike.same {s s' : Schema} (alike : Alike s s') {f f' : Following} (follow : f.Alike f')
    (v : Json) : Same (fun fs fs' => Schema.places fs' = Schema.places fs) f f' s s' v :=
  ⟨by rw [follow.accepts,alike.accepts],fun here => alike.places follow here v⟩

theorem FieldsAlike.keyed {κ : Type} {list list' : List (κ × Schema)}
    (fields : FieldsAlike list list') : Keyed Alike list list' := by
  induction fields with
  | nil => exact .nil
  | cons alike _ ih => exact .cons alike ih

namespace Keyword

/-- Keywords cannot be told apart if their schemas cannot. -/
theorem Alike.of_paired {k k' : Keyword} (paired : k.Paired Schema.Alike Schema.Alike k') :
    Alike k k' := by
  have same (f f' : Following) (follow : f.Alike f') (v : Json) := keyword_same .places (v := v)
    (paired.imp (fun _ _ one => one.same follow v) fun _ _ one w _ => one.same follow w)
  refine ⟨fun accepts v => ?_,fun follow here v => (same _ _ follow v).2 here⟩
  let plain : Following := ⟨accepts,fun _ _ _ => []⟩
  exact (same plain plain ⟨rfl,fun _ _ _ => rfl⟩ v).1

theorem Alike.constraint (c : Constraint) : Alike (.constraint c) (.constraint c) :=
  .of_paired (.constraint c)

theorem Alike.required (names : List String) : Alike (.required names) (.required names) :=
  .of_paired (.required names)

theorem Alike.noMembers : Alike .noMembers .noMembers := .of_paired .noMembers

theorem Alike.noRestItems (first : Nat) : Alike (.noRestItems first) (.noRestItems first) :=
  .of_paired (.noRestItems first)

section
variable {s s' : Schema} {list list' : List Schema} {named named' : List (String × Schema)}
  {matching matching' : List (Pattern × Schema)}

theorem Alike.dependencies (fields : FieldsAlike named named') :
    Alike (.dependencies named) (.dependencies named') := .of_paired (.dependencies fields.keyed)

theorem Alike.properties (fields : FieldsAlike named named') :
    Alike (.properties named) (.properties named') := .of_paired (.properties fields.keyed)

theorem Alike.patternProperties (fields : FieldsAlike matching matching') :
    Alike (.patternProperties matching) (.patternProperties matching') :=
  .of_paired (.patternProperties fields.keyed)

theorem Alike.members (names : FieldsAlike named named') (patterns : FieldsAlike matching matching')
    (rest : Schema.Alike s s') : Alike (.members named matching s) (.members named' matching' s') :=
  .of_paired (.members names.keyed patterns.keyed rest)

theorem Alike.onlyMembers (names : FieldsAlike named named')
    (patterns : FieldsAlike matching matching') :
    Alike (.onlyMembers named matching) (.onlyMembers named' matching') :=
  .of_paired (.onlyMembers names.keyed patterns.keyed)

theorem Alike.items (one : Schema.Alike s s') : Alike (.items s) (.items s') :=
  .of_paired (.items one)

theorem Alike.firstItems (each : List.Forall₂ Schema.Alike list list') :
    Alike (.firstItems list) (.firstItems list') := .of_paired (.firstItems each)

theorem Alike.restItems (first : Nat) (one : Schema.Alike s s') :
    Alike (.restItems first s) (.restItems first s') := .of_paired (.restItems first one)

theorem Alike.allOf (each : List.Forall₂ Schema.Alike list list') :
    Alike (.allOf list) (.allOf list') := .of_paired (.allOf each)

theorem Alike.anyOf (each : List.Forall₂ Schema.Alike list list') :
    Alike (.anyOf list) (.anyOf list') := .of_paired (.anyOf each)

theorem Alike.oneOf (each : List.Forall₂ Schema.Alike list list') :
    Alike (.oneOf list) (.oneOf list') := .of_paired (.oneOf each)

/-- What is said of the schema that must not hold may differ. -/
theorem Alike.not (source source' : Json) (one : Schema.Alike s s') :
    Alike (.not source s) (.not source' s') where
  accepts follow v := by simp only [keywordAccepts,one.accepts]
  places same here v := by simp only [keywordFaults,places_demand,same.accepts,one.accepts]

end

end Keyword

theorem Alike.keywords {list list' : List Keyword} (each : List.Forall₂ Keyword.Alike list list') :
    Alike (.keywords list) (.keywords list') where
  accepts follow v := by
    simp only [Schema.accepts]
    induction each with
    | nil => rfl
    | cons one _ ih => rw [keywordsAccept,keywordsAccept,one.accepts,ih]
  places same here v := by
    simp only [Schema.faults]
    induction each with
    | nil => rfl
    | cons one _ ih =>
      rw [keywordsFaults,keywordsFaults,places_append,places_append,one.places same,ih]

/-! A schema cannot be told apart from itself. -/

mutual

theorem Alike.refl : ∀ s : Schema, Alike s s
  | .everything => .everything
  | .nothing => .nothing
  | .reference i => .reference i
  | .keywords list => .keywords (keywordsAlike_refl list)

theorem Keyword.Alike.refl : ∀ k : Keyword, Keyword.Alike k k
  | .constraint c => .constraint c
  | .required names => .required names
  | .dependencies list => .dependencies (namedAlike_refl list)
  | .properties list => .properties (namedAlike_refl list)
  | .patternProperties list => .patternProperties (matchingAlike_refl list)
  | .members named matching rest =>
    .members (namedAlike_refl named) (matchingAlike_refl matching) (Alike.refl rest)
  | .onlyMembers named matching => .onlyMembers (namedAlike_refl named) (matchingAlike_refl matching)
  | .noMembers => .noMembers
  | .items s => .items (Alike.refl s)
  | .firstItems list => .firstItems (schemasAlike_refl list)
  | .restItems first s => .restItems first (Alike.refl s)
  | .noRestItems first => .noRestItems first
  | .allOf list => .allOf (schemasAlike_refl list)
  | .anyOf list => .anyOf (schemasAlike_refl list)
  | .oneOf list => .oneOf (schemasAlike_refl list)
  | .not source s => .not source source (Alike.refl s)

theorem keywordsAlike_refl : ∀ list : List Keyword, List.Forall₂ Keyword.Alike list list
  | [] => .nil
  | k :: rest => .cons (Keyword.Alike.refl k) (keywordsAlike_refl rest)

theorem schemasAlike_refl : ∀ list : List Schema, List.Forall₂ Alike list list
  | [] => .nil
  | s :: rest => .cons (Alike.refl s) (schemasAlike_refl rest)

theorem namedAlike_refl : ∀ list : List (String × Schema), FieldsAlike list list
  | [] => .nil
  | (_,s) :: rest => .cons (Alike.refl s) (namedAlike_refl rest)

theorem matchingAlike_refl : ∀ list : List (Pattern × Schema), FieldsAlike list list
  | [] => .nil
  | (_,s) :: rest => .cons (Alike.refl s) (matchingAlike_refl rest)

end

/-! Validators. -/

namespace Validator

structure Alike (w w' : Validator) : Prop where
  root : Schema.Alike w.root w'.root
  table : List.Forall₂ Schema.Alike w.table.toList w'.table.toList

section
variable {w w' : Validator}

theorem Alike.target (alike : w.Alike w') (i : Nat) :
    Schema.Alike (Validator.target w.table i) (Validator.target w'.table i) := by
  have each := alike.table
  rw [Validator.target,Validator.target,← Array.getElem?_toList,← Array.getElem?_toList]
  generalize w.table.toList = list at each ⊢
  generalize w'.table.toList = list' at each ⊢
  induction each generalizing i with
  | nil => exact .everything
  | cons one _ ih =>
    cases i with
    | zero => exact one
    | succ i => exact ih i

theorem Alike.acceptsWithin (alike : w.Alike w') (n : Nat) :
    Validator.acceptsWithin w'.table n = Validator.acceptsWithin w.table n := by
  induction n with
  | zero => rfl
  | succ n ih =>
    funext i v
    rw [Validator.acceptsWithin,Validator.acceptsWithin,ih,(alike.target i).accepts]

theorem Alike.following (alike : w.Alike w') (n : Nat) : Following.Alike
    ⟨Validator.acceptsWithin w.table n,faultsWithin w.table n⟩
    ⟨Validator.acceptsWithin w'.table n,faultsWithin w'.table n⟩ := by
  refine ⟨alike.acceptsWithin n,?_⟩
  induction n with
  | zero => exact fun _ _ _ => rfl
  | succ n ih => exact fun i here v => (alike.target i).places ⟨alike.acceptsWithin n,ih⟩ here v

theorem Alike.rounds (alike : w.Alike w') (document : Json) :
    w'.rounds document = w.rounds document := by
  have size := alike.table.length_eq
  rw [Array.length_toList,Array.length_toList] at size
  rw [Validator.rounds,Validator.rounds,size]

theorem Alike.accepts (alike : w.Alike w') (document : Json) :
    w'.accepts document = w.accepts document := by
  rw [Validator.accepts,Validator.accepts,alike.rounds,alike.acceptsWithin,alike.root.accepts]

/-- What is found in a document is at the same places. -/
theorem Alike.pointers (alike : w.Alike w') (document : Json) :
    (w'.findings document).map (·.pointer) = (w.findings document).map (·.pointer) := by
  have same : places (w'.faults document) = places (w.faults document) := by
    unfold Validator.faults
    rw [alike.rounds]
    exact alike.root.places (alike.following _) .root document
  have pointers (w : Validator) : (w.findings document).map (·.pointer) =
      (places (w.faults document)).map fun p => (Pointer.parseAgainst? p.text document).getD .root := by
    rw [findings_pointers,places,List.map_map]
    rfl
  rw [pointers,pointers,same]

end

end Validator
end ApiReview.Schema
