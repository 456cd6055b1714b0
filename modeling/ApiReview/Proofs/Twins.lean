import ApiReview.Proofs.Pruning

/-! Gathering for a schema that has lost members. The same documents are asked for, and the same parts
are known by the same names, as long as pointers lead to the same places. -/
namespace ApiReview.Schema

/-- What one computation comes to the other one has something beside. -/
def Carries {α β : Type} (R : α → β → Prop) (x : Except Error α) (x' : Except Error β) : Prop :=
  ∀ a, x = .ok a → ∃ a', x' = .ok a' ∧ R a a'

theorem Carries.ok {α β : Type} {R : α → β → Prop} {a : α} {a' : β} (same : R a a') :
    Carries R (.ok a) (.ok a') := by
  rintro _ ⟨⟩
  exact ⟨a',rfl,same⟩

theorem Carries.bind {α β γ δ : Type} {R : α → β → Prop} {Q : γ → δ → Prop} {x : Except Error α}
    {x' : Except Error β} {f : α → Except Error γ} {f' : β → Except Error δ}
    (first : Carries R x x') (rest : ∀ a a', R a a' → Carries Q (f a) (f' a')) :
    Carries Q (x >>= f) (x' >>= f') := by
  intro b done
  obtain ⟨a,one,two⟩ := Success.bind_iff.mp done
  obtain ⟨a',same,beside⟩ := first a one
  obtain ⟨b',done,last⟩ := rest a a' beside b two
  exact ⟨b',Success.bind_iff.mpr ⟨a',same,done⟩,last⟩

theorem Carries.refl {α : Type} {R : α → α → Prop} (same : ∀ a, R a a) (x : Except Error α) :
    Carries R x x := fun a done => ⟨a,done,same a⟩

/-- What the computations come to is noted. -/
theorem Carries.noted {α β : Type} {R : α → β → Prop} {x : Except Error α} {x' : Except Error β}
    (carries : Carries R x x') : Carries (fun a a' => x = .ok a ∧ x' = .ok a' ∧ R a a') x x' := by
  intro a done
  obtain ⟨a',done',beside⟩ := carries a done
  exact ⟨a',done',done,done',beside⟩

theorem Carries.pairwise {α β : Type} {R : β → β → Prop} {f f' : α → Except Error β}
    {list list' : List α} (each : List.Forall₂ (fun a a' => Carries R (f a) (f' a')) list list') :
    Carries (List.Forall₂ R) (list.mapM f) (list'.mapM f') := by
  induction each with
  | nil => exact .ok .nil
  | cons one _ ih =>
    rw [List.mapM_cons,List.mapM_cons]
    exact one.bind fun b b' first => ih.bind fun bs bs' others => .ok (.cons first others)

/-- Under the same keys, in the same order, stand values that are alike as schemas. -/
def Beside {κ : Type} : List (κ × Json) → List (κ × Json) → Prop :=
  List.Forall₂ fun p p' => p'.1 = p.1 ∧ Pruned DataAlike p.2 p'.2

structure Survey.Twin (s s' : Survey) : Prop where
  documents : Beside s.documents s'.documents
  anchors : Beside s.anchors s'.anchors
  references : s'.references = s.references
  pointers : s'.pointers = s.pointers

theorem Survey.Twin.empty : Twin {} {} := ⟨.nil,.nil,rfl,rfl⟩

theorem Survey.Twin.append {s s' t t' : Survey} (one : s.Twin s') (two : t.Twin t') :
    (s ++ t).Twin (s' ++ t') where
  documents := List.rel_append one.documents two.documents
  anchors := List.rel_append one.anchors two.anchors
  references := congrArg₂ _ one.references two.references
  pointers := congrArg₂ _ one.pointers two.pointers

theorem DataAlike.refl (v : Json) : DataAlike v v := .inl rfl

theorem Beside.refl {κ : Type} (list : List (κ × Json)) : Beside list list :=
  List.forall₂_same.mpr fun p _ => ⟨rfl,Pruned.refl DataAlike.refl p.2⟩

theorem Survey.Twin.refl (s : Survey) : s.Twin s := ⟨.refl s.documents,.refl s.anchors,rfl,rfl⟩

theorem Survey.Twin.foldl {list list' : List Survey} (twins : List.Forall₂ Survey.Twin list list')
    {s s' : Survey} (first : s.Twin s') :
    (list.foldl (· ++ ·) s).Twin (list'.foldl (· ++ ·) s') := by
  induction twins generalizing s s' with
  | nil => exact first
  | cons one _ ih => exact ih (first.append one)

theorem Carries.append {R : Survey → Survey → Prop} {x x' y y' : Except Error Survey}
    (appends : ∀ {s s' t t'}, R s s' → R t t' → R (s ++ t) (s' ++ t')) (one : Carries R x x')
    (two : Carries R y y') :
    Carries R (do return (← x) ++ (← y)) (do return (← x') ++ (← y')) :=
  .bind one fun _ _ s => .bind two fun _ _ t => .ok (appends s t)

theorem Survey.twins_append {x x' y y' : Except Error Survey} (one : Carries Twin x x')
    (two : Carries Twin y y') :
    Carries Twin (do return (← x) ++ (← y)) (do return (← x') ++ (← y')) :=
  one.append Twin.append two

theorem surveySelf_twin {ms ms' : List (String × Json)} (pruned : PrunedMembers DataAlike ms ms')
    (base : Uri) : Carries Survey.Twin (surveySelf base ms) (surveySelf base ms') := by
  have object : Pruned DataAlike (.object ms) (.object ms') := pruned_object.mpr ⟨ms',rfl,pruned⟩
  have texts : ["$ref","$schema"].filterMap (stringMember? · ms') =
      ["$ref","$schema"].filterMap (stringMember? · ms) := by
    refine List.filterMap_congr fun name listed => stringMember?_pruned pruned ?_
    exact List.mem_append_left ["id"] listed
  unfold surveySelf
  rw [selfId?_pruned pruned,anchor?_pruned pruned,texts]
  refine .bind (R := Eq) (fun referred done => ⟨referred,done,rfl⟩) ?_
  rintro referred _ rfl
  refine .ok (Survey.Twin.foldl (List.forall₂_same.mpr fun s _ => .refl s) ⟨?_,?_,rfl,rfl⟩)
  · split
    · exact .cons ⟨rfl,object⟩ .nil
    · exact .nil
  · cases anchor? ms with
    | none => exact .nil
    | some name => exact .cons ⟨rfl,object⟩ .nil

/-! A survey of the one schema finds what a survey of the other one finds. -/

theorem PrunedArray.isArray {v v' : Json} (pruned : PrunedArray DataAlike v v') :
    v'.items?.isSome = v.items?.isSome := by
  rcases pruned.cases with ⟨plain,rfl | ⟨_,object⟩⟩ | ⟨vs,vs',rfl,rfl,_⟩
  · rfl
  · rw [plain]
    cases v' with
    | array vs => cases object
    | _ => rfl
  · rfl

theorem surveyArray_other {v : Json} (other : v.items? = none) (base : Uri) :
    surveyArray base v = .ok {} := by
  cases v with
  | array vs => cases other
  | _ => rfl

theorem survey_array {v : Json} (array : v.items?.isSome = true) (base : Uri) :
    survey base v = .ok {} := by
  cases v with
  | array vs => rfl
  | _ => cases array

theorem Pruned.plain {v v' : Json} (pruned : Pruned DataAlike v v') (plain : v.items? = none) :
    v'.items? = none := by
  rcases pruned.cases with rfl | ⟨ms,ms',rfl,rfl,_⟩
  · exact plain
  · rfl

mutual

theorem survey_twin (base : Uri) : ∀ v v' : Json, Pruned DataAlike v v' →
    Carries Survey.Twin (survey base v) (survey base v')
  | .object ms, _, pruned => by
    obtain ⟨ms',rfl,members⟩ := pruned_object.mp pruned
    unfold survey
    rw [baseWithin_pruned members]
    refine .bind (R := Eq) (fun inner done => ⟨inner,done,rfl⟩) ?_
    rintro inner _ rfl
    exact Survey.twins_append (surveySelf_twin members inner)
      (surveyMembers_twin inner ms ms' members)
  | .null, _, pruned | .bool _, _, pruned | .number _, _, pruned | .string _, _, pruned
  | .array _, _, pruned => by
    rw [(pruned_other rfl).mp pruned]
    exact .ok .empty

theorem surveyMembers_twin (base : Uri) : ∀ ms ms' : List (String × Json),
    PrunedMembers DataAlike ms ms' →
    Carries Survey.Twin (surveyMembers base ms) (surveyMembers base ms')
  | [], _, pruned => by
    rw [PrunedMembers] at pruned
    rw [pruned]
    exact .ok .empty
  | (name,v) :: rest, ms', pruned => by
    rcases prunedMembers_cons.mp pruned with ⟨idle,later⟩ | ⟨v',rest',rfl,here,later⟩
    · have tail := surveyMembers_twin base rest ms' later
      rw [surveyMembers_cons,surveyUnder,position?_idle idle]
      intro s done
      obtain ⟨_,⟨⟩,done⟩ := Success.bind_iff.mp done
      obtain ⟨t,found,⟨⟩⟩ := Success.bind_iff.mp done
      obtain ⟨t',found',twin⟩ := tail t found
      exact ⟨t',found',twin.documents,twin.anchors,twin.references,twin.pointers⟩
    · rw [surveyMembers_cons,surveyMembers_cons]
      refine Survey.twins_append ?_ (surveyMembers_twin base rest rest' later)
      unfold PrunedUnder at here
      unfold surveyUnder
      generalize position? name = position at here ⊢
      rcases position with _ | (_ | _ | _ | _)
      · exact .ok Survey.Twin.empty
      · exact survey_twin base v v' here
      · exact surveyArray_twin base v v' here
      · -- What may be one schema or several is surveyed as both, and one of the two finds nothing.
        by_cases array : v.items?.isSome = true
        · replace here := (if_pos array).mp here
          dsimp only
          rw [survey_array array,survey_array (here.isArray.trans array)]
          exact Survey.twins_append (.ok .empty) (surveyArray_twin base v v' here)
        · replace here := (if_neg array).mp here
          have plain : v.items? = none := by simpa using array
          dsimp only
          rw [surveyArray_other plain,surveyArray_other (here.plain plain)]
          exact Survey.twins_append (survey_twin base v v' here) (.ok .empty)
      · exact surveyFields_twin base v v' here

theorem surveyArray_twin (base : Uri) : ∀ v v' : Json, PrunedArray DataAlike v v' →
    Carries Survey.Twin (surveyArray base v) (surveyArray base v')
  | .array vs, _, pruned => by
    obtain ⟨vs',rfl,items⟩ := prunedArray_array.mp pruned
    exact surveyItems_twin base vs vs' items
  | .null, v', pruned | .bool _, v', pruned | .number _, v', pruned | .string _, v', pruned
  | .object _, v', pruned => by
    have plain : v'.items? = none := by simpa [Json.items?] using pruned.isArray
    rw [surveyArray_other plain]
    exact .ok .empty

theorem surveyItems_twin (base : Uri) : ∀ vs vs' : List Json, PrunedItems DataAlike vs vs' →
    Carries Survey.Twin (surveyItems base vs) (surveyItems base vs')
  | [], _, pruned => by
    rw [PrunedItems] at pruned
    rw [pruned]
    exact .ok .empty
  | v :: rest, _, pruned => by
    rw [PrunedItems] at pruned
    obtain ⟨v',rest',rfl,here,later⟩ := pruned
    exact Survey.twins_append (survey_twin base v v' here) (surveyItems_twin base rest rest' later)

theorem surveyFields_twin (base : Uri) : ∀ v v' : Json, PrunedFields DataAlike v v' →
    Carries Survey.Twin (surveyFields base v) (surveyFields base v')
  | .object ms, _, pruned => by
    obtain ⟨ms',rfl,values⟩ := prunedFields_object.mp pruned
    exact surveyValues_twin base ms ms' values
  | .null, _, pruned | .bool _, _, pruned | .number _, _, pruned | .string _, _, pruned
  | .array _, _, pruned => by
    obtain rfl := ((prunedFields_other rfl).mp pruned).resolve_right (by simp [Json.isObject])
    exact .ok .empty

theorem surveyValues_twin (base : Uri) : ∀ ms ms' : List (String × Json),
    PrunedValues DataAlike ms ms' →
    Carries Survey.Twin (surveyValues base ms) (surveyValues base ms')
  | [], _, pruned => by
    rw [PrunedValues] at pruned
    rw [pruned]
    exact .ok .empty
  | (_,v) :: rest, _, pruned => by
    rw [PrunedValues] at pruned
    obtain ⟨v',rest',rfl,here,later⟩ := pruned
    exact Survey.twins_append (survey_twin base v v' here) (surveyValues_twin base rest rest' later)

end

/-! Gathering goes on in the same way. The pointers that are followed in gathering are the same, and
have to lead to the same places. -/

/-- The second schema is the first one without some of its idle members. An array is no schema,
whatever is in it. -/
def SeenAlike (v v' : Json) : Prop :=
  Pruned DataAlike v v' ∨ v.items?.isSome = true ∧ v'.items?.isSome = true

def SpotAlike (p p' : Uri × Json) : Prop := p'.1 = p.1 ∧ SeenAlike p.2 p'.2

/-- Both lead somewhere, and find the same there but for idle members; or neither does. -/
def LeadAlike (x x' : Except Error (Uri × Json)) : Prop :=
  Option.Rel SpotAlike x.toOption x'.toOption

theorem LeadAlike.cases {x x' : Except Error (Uri × Json)} (alike : LeadAlike x x') :
    (∃ e e', x = .error e ∧ x' = .error e') ∨
    ∃ inner v v', x = .ok (inner,v) ∧ x' = .ok (inner,v') ∧ SeenAlike v v' := by
  cases x with
  | error e =>
    cases x' with
    | error e' => exact .inl ⟨e,e',rfl,rfl⟩
    | ok p => cases alike
  | ok p =>
    cases x' with
    | error e => cases alike
    | ok p' =>
      obtain ⟨inner,v⟩ := p
      obtain ⟨inner',v'⟩ := p'
      cases alike with
      | some both =>
        obtain ⟨rfl,alike⟩ := both
        exact .inr ⟨inner',v,v',rfl,rfl,alike⟩

theorem SeenAlike.survey {v v' : Json} (alike : SeenAlike v v') (base : Uri) :
    Carries Survey.Twin (Schema.survey base v) (Schema.survey base v') := by
  rcases alike with pruned | ⟨array,array'⟩
  · exact survey_twin base v v' pruned
  · rw [survey_array array,survey_array array']
    exact .ok .empty

section
variable {base : Uri} {document document' : Json}
  (kept : ∀ p, Sought base document p →
    LeadAlike (follow p base document) (follow p base document'))
include kept

theorem surveyPointers_twin (n : Nat) (seen : List String) {pointers : List String}
    (sought : ∀ p ∈ pointers, Sought base document p) :
    Carries Survey.Twin (surveyPointers base document n seen pointers)
      (surveyPointers base document' n seen pointers) := by
  induction n generalizing seen pointers with
  | zero => cases pointers <;> exact .ok .empty
  | succ n ih =>
    cases pointers with
    | nil => exact .ok .empty
    | cons p rest =>
      obtain ⟨here,later⟩ := List.forall_mem_cons.mp sought
      unfold surveyPointers
      split
      · exact ih seen later
      · rcases (kept p here).cases with ⟨e,e',failed,failed'⟩ | ⟨inner,v,v',led,led',alike⟩
        · rw [failed,failed']
          exact ih (p :: seen) later
        · rw [led,led']
          dsimp only
          refine (alike.survey inner).noted.bind ?_
          rintro found found' ⟨surveyed,_,twin⟩
          rw [twin.pointers]
          refine .bind (ih (p :: seen) ?_) fun others others' twin' => .ok ?_
          · intro q member
            rcases List.mem_append.mp member with old | new
            · exact later q old
            · exact .there here led surveyed new
          · exact Survey.Twin.append ⟨.nil,.nil,twin.references,rfl⟩
              ⟨twin'.documents,twin'.anchors,twin'.references,rfl⟩

theorem surveyAll_twin (pruned : Pruned DataAlike document document') :
    Carries Survey.Twin (surveyAll ⟨base,document⟩) (surveyAll ⟨base,document'⟩) := by
  refine (survey_twin base document document' pruned).noted.bind ?_
  rintro found found' ⟨surveyed,_,twin⟩
  rw [twin.pointers]
  exact .bind (surveyPointers_twin kept memoryLimit [] fun p member => .here surveyed member)
    fun others others' twin' => .ok (twin.append twin')

end

structure Resources.Twin (r r' : Resources) : Prop where
  documents : Beside r.documents r'.documents
  anchors : Beside r.anchors r'.anchors

theorem Resources.Twin.add {r r' : Resources} {s s' : Survey} (twin : r.Twin r')
    (found : s.Twin s') : (r.add s).Twin (r'.add s') where
  documents := List.rel_append found.documents twin.documents
  anchors := List.rel_append found.anchors twin.anchors

theorem Beside.lookup {κ : Type} [BEq κ] {list list' : List (κ × Json)} (beside : Beside list list')
    (key : κ) : Option.Rel (Pruned DataAlike) (list.lookup key) (list'.lookup key) := by
  induction beside with
  | nil => exact .none
  | @cons p p' rest rest' both _ ih =>
    obtain ⟨k,v⟩ := p
    obtain ⟨k',v'⟩ := p'
    obtain ⟨rfl,pruned⟩ := both
    rw [List.lookup_cons,List.lookup_cons]
    cases key == k' with
    | true => exact .some pruned
    | false => exact ih

theorem fetch_twin (retrieve : String → Except String Json) {r r' : Resources} (twin : r.Twin r')
    (pending : List Pending) (uri : Uri) :
    Carries (fun s s' => s.1.Twin s'.1 ∧ s'.2 = s.2) (Resources.fetch retrieve (r,pending) uri)
      (Resources.fetch retrieve (r',pending) uri) := by
  unfold Resources.fetch
  dsimp only
  rw [optionRel_isSome (twin.documents.lookup uri.text)]
  split
  · exact .ok ⟨twin,rfl⟩
  · cases retrieve uri.text with
    | error reason =>
      intro s done
      cases done
    | ok v => exact .ok ⟨⟨.cons ⟨rfl,.refl DataAlike.refl v⟩ twin.documents,twin.anchors⟩,rfl⟩

theorem fetchAll_twin (retrieve : String → Except String Json) (uris : List Uri) {r r' : Resources}
    (twin : r.Twin r') (pending : List Pending) :
    Carries (fun s s' => s.1.Twin s'.1 ∧ s'.2 = s.2)
      (uris.foldlM (Resources.fetch retrieve) (r,pending))
      (uris.foldlM (Resources.fetch retrieve) (r',pending)) := by
  induction uris generalizing r r' pending with
  | nil => exact .ok ⟨twin,rfl⟩
  | cons uri rest ih =>
    rw [List.foldlM_cons,List.foldlM_cons]
    refine (fetch_twin retrieve twin pending uri).bind ?_
    rintro ⟨s,left⟩ ⟨s',left'⟩ ⟨twin,same⟩
    obtain rfl : left' = left := same
    exact ih twin left'

theorem gather_twin (retrieve : String → Except String Json) (n : Nat) {pending pending' : List Pending}
    (each : List.Forall₂ (fun p p' => Carries Survey.Twin (surveyAll p) (surveyAll p'))
      pending pending') {r r' : Resources} (twin : r.Twin r') :
    Carries Resources.Twin (Resources.gather retrieve n pending r)
      (Resources.gather retrieve n pending' r') := by
  induction n generalizing pending pending' r r' with
  | zero => cases each <;> exact .ok twin
  | succ n ih =>
    cases each with
    | nil => exact .ok twin
    | @cons p p' rest rest' one others =>
      unfold Resources.gather
      refine (Carries.pairwise (.cons one others)).bind fun list list' twins => ?_
      have found := Survey.Twin.foldl twins Survey.Twin.empty
      dsimp only
      rw [found.references]
      refine (fetchAll_twin retrieve _ (twin.add found) []).bind ?_
      rintro ⟨s,left⟩ ⟨s',left'⟩ ⟨twin,same⟩
      obtain rfl : left' = left := same
      exact ih (List.forall₂_same.mpr fun q _ => .refl Survey.Twin.refl (surveyAll q)) twin

/-- What an object declares for all that is inside it does not change. -/
theorem Pruned.baseWithin {v v' : Json} (pruned : Pruned DataAlike v v') (base : Uri) :
    Schema.baseWithin base ((v'.members?).getD []) = Schema.baseWithin base ((v.members?).getD []) := by
  rcases pruned.cases with rfl | ⟨ms,ms',rfl,rfl,members⟩
  · rfl
  · exact baseWithin_pruned members base

theorem gatherFor_twin (retrieve : String → Except String Json) {schema schema' : Json}
    (pruned : Pruned DataAlike schema schema') (kept : ∀ p, Sought defaultBase schema p →
      LeadAlike (follow p defaultBase schema) (follow p defaultBase schema')) :
    Carries Resources.Twin (gatherFor retrieve schema) (gatherFor retrieve schema') := by
  unfold gatherFor
  rw [pruned.baseWithin]
  refine .bind (R := Eq) (fun base done => ⟨base,done,rfl⟩) ?_
  rintro base _ rfl
  refine gather_twin retrieve memoryLimit (.cons (surveyAll_twin kept pruned) .nil) ⟨?_,Beside.refl _⟩
  exact .cons ⟨rfl,pruned⟩ (Beside.refl draftResources.documents)

/-! What identifiers lead to. -/

structure Target.Alike (t t' : Target) : Prop where
  base : t'.base = t.base
  schema : SeenAlike t.schema t'.schema

section
variable {r r' : Resources} {uri : Uri}

theorem document_twin (twin : r.Twin r') (uri : Uri) :
    Carries (Pruned DataAlike) (r.document uri) (r'.document uri) := by
  unfold Resources.document
  rcases optionRel_cases (twin.documents.lookup uri.text) with
    ⟨none,none'⟩ | ⟨v,v',one,one',pruned⟩
  · rw [none,none']
    exact nofun
  · rw [one,one']
    exact .ok pruned

theorem anchor_twin (twin : r.Twin r') {document document' : Json}
    (pruned : Pruned DataAlike document document') (name : String) :
    Carries SpotAlike (r.anchor uri document name)
      (r'.anchor uri document' name) := by
  unfold Resources.anchor
  rw [pruned.baseWithin]
  refine .bind (R := Eq) (fun own done => ⟨own,done,rfl⟩) ?_
  rintro own _ rfl
  have either : Option.Rel (Pruned DataAlike)
      (r.anchors.lookup (uri.text,name) <|> r.anchors.lookup (own.text,name))
      (r'.anchors.lookup (uri.text,name) <|> r'.anchors.lookup (own.text,name)) := by
    rcases optionRel_cases (twin.anchors.lookup (uri.text,name)) with
      ⟨none,none'⟩ | ⟨v,v',one,one',pruned⟩
    · rw [none,none']
      exact twin.anchors.lookup (own.text,name)
    · rw [one,one']
      exact .some pruned
  rcases optionRel_cases either with ⟨none,none'⟩ | ⟨v,v',one,one',pruned⟩
  · rw [none,none']
    exact nofun
  · rw [one,one']
    exact .ok ⟨rfl,.inl pruned⟩

/-- An identifier leads to what it led to, if it is no pointer or its pointer leads there. -/
theorem target_twin (twin : r.Twin r') (kept : ∀ p, uri.fragment = some p → p.startsWith "/" = true →
      ∀ document document', r.document uri.withoutFragment = .ok document →
        r'.document uri.withoutFragment = .ok document' →
        LeadAlike (follow p uri.withoutFragment document) (follow p uri.withoutFragment document')) :
    Carries Target.Alike (r.target uri) (r'.target uri) := by
  unfold Resources.target
  refine (document_twin twin _).noted.bind ?_
  rintro document document' ⟨found,found',pruned⟩
  have last (p p' : Uri × Json) (alike : SpotAlike p p') :
      Carries Target.Alike (.ok ⟨p.1,p.2⟩) (.ok ⟨p'.1,p'.2⟩) := .ok ⟨alike.1,alike.2⟩
  dsimp only
  split
  · next pointer =>
    refine Carries.bind ?_ last
    cases fragment : uri.fragment with
    | none => simp [fragment] at pointer
    | some p =>
      rw [fragment] at pointer
      rcases (kept p fragment pointer document document' found found').cases with
        ⟨e,_,failed,_⟩ | ⟨inner,v,v',led,led',alike⟩
      · intro q done
        exact absurd (failed.symm.trans done) nofun
      · rintro q done
        obtain rfl := Except.ok.inj (led.symm.trans done)
        exact ⟨(inner,v'),led',rfl,alike⟩
  · split
    · exact Carries.bind (.ok (R := SpotAlike) ⟨rfl,.inl pruned⟩) last
    · exact Carries.bind (anchor_twin twin pruned _) last

end

end ApiReview.Schema
