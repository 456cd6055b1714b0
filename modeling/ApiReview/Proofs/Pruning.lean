import ApiReview.Proofs.Gathering
import Mathlib.Data.List.Forall2
import Mathlib.Order.MinMax

/-! Schemas without members that say nothing. Formats are not looked at, nor are members that draft 4
does not know. A schema may stand inside another one, so what is left out is told apart by where it
stands: a name under `properties` is no keyword. -/
namespace ApiReview.Schema

/-- What the draft calls the members of a schema, and references. -/
def draftKeywords : List String :=
  "$ref" :: (((Bundled.Draft4.applied.get? "properties").bind Json.members?).getD []).map Prod.fst

def isUnknown (name : String) : Bool := !draftKeywords.contains name

/-- Names of members that may be left out. -/
def isIdle (name : String) : Bool := name = "format" || isUnknown name

mutual

/-- The second schema is the first one without some of its idle members. Members that stay hold what
they held, and schemas in them may have lost members in turn; unknown ones may hold anything that is
no deeper. For values that are no schemas `data` says what counts as the same. -/
def Pruned (data : Json → Json → Prop) : Json → Json → Prop
  | .object ms, v' => ∃ ms', v' = .object ms' ∧ PrunedMembers data ms ms'
  | v, v' => v' = v

def PrunedMembers (data : Json → Json → Prop) :
    List (String × Json) → List (String × Json) → Prop
  | [], ms' => ms' = []
  | (name, v) :: rest, ms' => isIdle name = true ∧ PrunedMembers data rest ms' ∨
    ∃ v' rest', ms' = (name, v') :: rest' ∧
      (match position? name with
        | some .schema => Pruned data v v'
        | some .schemas => PrunedArray data v v'
        | some .either => if v.items?.isSome then PrunedArray data v v' else Pruned data v v'
        | some .fields => PrunedFields data v v'
        | none => isUnknown name = true ∧ v'.depth ≤ v.depth ∨ data v v') ∧
      PrunedMembers data rest rest'

def PrunedArray (data : Json → Json → Prop) : Json → Json → Prop
  | .array vs, v' => ∃ vs', v' = .array vs' ∧ PrunedItems data vs vs'
  | v, v' => data v v'

def PrunedItems (data : Json → Json → Prop) : List Json → List Json → Prop
  | [], vs' => vs' = []
  | v :: rest, vs' => ∃ v' rest', vs' = v' :: rest' ∧ Pruned data v v' ∧ PrunedItems data rest rest'

def PrunedFields (data : Json → Json → Prop) : Json → Json → Prop
  | .object ms, v' => ∃ ms', v' = .object ms' ∧ PrunedValues data ms ms'
  | v, v' => data v v'

def PrunedValues (data : Json → Json → Prop) :
    List (String × Json) → List (String × Json) → Prop
  | [], ms' => ms' = []
  | (name, v) :: rest, ms' =>
    ∃ v' rest', ms' = (name, v') :: rest' ∧ Pruned data v v' ∧ PrunedValues data rest rest'

end

/-- What may stand in the place of the value of a member that stays. -/
def PrunedUnder (data : Json → Json → Prop) (name : String) (v v' : Json) : Prop :=
  match position? name with
  | some .schema => Pruned data v v'
  | some .schemas => PrunedArray data v v'
  | some .either => if v.items?.isSome then PrunedArray data v v' else Pruned data v v'
  | some .fields => PrunedFields data v v'
  | none => isUnknown name = true ∧ v'.depth ≤ v.depth ∨ data v v'

section
variable {data : Json → Json → Prop} {name : String} {v v' : Json} {rest ms ms' : List (String × Json)}

theorem prunedMembers_cons : PrunedMembers data ((name,v) :: rest) ms' ↔
    isIdle name = true ∧ PrunedMembers data rest ms' ∨ ∃ v' rest', ms' = (name,v') :: rest' ∧
      PrunedUnder data name v v' ∧ PrunedMembers data rest rest' := by
  rw [PrunedMembers]
  rfl

theorem pruned_object : Pruned data (.object ms) v' ↔
    ∃ ms', v' = .object ms' ∧ PrunedMembers data ms ms' := by rw [Pruned]

theorem prunedArray_array {vs : List Json} : PrunedArray data (.array vs) v' ↔
    ∃ vs', v' = .array vs' ∧ PrunedItems data vs vs' := by rw [PrunedArray]

theorem prunedFields_object : PrunedFields data (.object ms) v' ↔
    ∃ ms', v' = .object ms' ∧ PrunedValues data ms ms' := by rw [PrunedFields]

theorem pruned_other (other : v.isObject = false) : Pruned data v v' ↔ v' = v := by
  rw [Pruned]
  rintro ms rfl
  cases other

theorem prunedArray_other (other : v.items? = none) : PrunedArray data v v' ↔ data v v' := by
  rw [PrunedArray]
  rintro vs rfl
  cases other

theorem prunedFields_other (other : v.isObject = false) : PrunedFields data v v' ↔ data v v' := by
  rw [PrunedFields]
  rintro ms rfl
  cases other

theorem PrunedMembers.drop (idle : isIdle name = true) (later : PrunedMembers data rest ms') :
    PrunedMembers data ((name,v) :: rest) ms' := prunedMembers_cons.mpr (.inl ⟨idle,later⟩)

theorem PrunedMembers.keep {rest' : List (String × Json)} (under : PrunedUnder data name v v')
    (later : PrunedMembers data rest rest') :
    PrunedMembers data ((name,v) :: rest) ((name,v') :: rest') :=
  prunedMembers_cons.mpr (.inr ⟨v',rest',rfl,under,later⟩)

theorem prunedItems_iff {vs vs' : List Json} :
    PrunedItems data vs vs' ↔ List.Forall₂ (Pruned data) vs vs' := by
  induction vs generalizing vs' with
  | nil => rw [PrunedItems,List.forall₂_nil_left_iff]
  | cons v rest ih =>
    rw [PrunedItems,List.forall₂_cons_left_iff]
    constructor
    · rintro ⟨v',rest',rfl,here,later⟩
      exact ⟨v',rest',here,ih.mp later,rfl⟩
    · rintro ⟨v',rest',here,later,rfl⟩
      exact ⟨v',rest',rfl,here,ih.mpr later⟩

theorem PrunedItems.length_eq {vs vs' : List Json} (pruned : PrunedItems data vs vs') :
    vs'.length = vs.length := (prunedItems_iff.mp pruned).length_eq.symm

theorem prunedValues_iff : PrunedValues data ms ms' ↔
    List.Forall₂ (fun m m' => m'.1 = m.1 ∧ Pruned data m.2 m'.2) ms ms' := by
  induction ms generalizing ms' with
  | nil => rw [PrunedValues,List.forall₂_nil_left_iff]
  | cons m rest ih =>
    obtain ⟨name,v⟩ := m
    rw [PrunedValues,List.forall₂_cons_left_iff]
    constructor
    · rintro ⟨v',rest',rfl,here,later⟩
      exact ⟨(name,v'),rest',⟨rfl,here⟩,ih.mp later,rfl⟩
    · rintro ⟨⟨_,v'⟩,rest',⟨rfl,here⟩,later,rfl⟩
      exact ⟨v',rest',rfl,here,ih.mpr later⟩

theorem Pruned.cases (pruned : Pruned data v v') :
    v' = v ∨ ∃ ms ms', v = .object ms ∧ v' = .object ms' ∧ PrunedMembers data ms ms' := by
  cases v with
  | object ms =>
    obtain ⟨ms',rfl,members⟩ := pruned_object.mp pruned
    exact .inr ⟨ms,ms',rfl,rfl,members⟩
  | _ => exact .inl ((pruned_other rfl).mp pruned)

theorem PrunedArray.cases (pruned : PrunedArray data v v') : v.items? = none ∧ data v v' ∨
    ∃ vs vs', v = .array vs ∧ v' = .array vs' ∧ PrunedItems data vs vs' := by
  cases v with
  | array vs =>
    obtain ⟨vs',rfl,items⟩ := prunedArray_array.mp pruned
    exact .inr ⟨vs,vs',rfl,rfl,items⟩
  | _ => exact .inl ⟨rfl,(prunedArray_other rfl).mp pruned⟩

theorem PrunedFields.cases (pruned : PrunedFields data v v') : v.isObject = false ∧ data v v' ∨
    ∃ ms ms', v = .object ms ∧ v' = .object ms' ∧ PrunedValues data ms ms' := by
  cases v with
  | object ms =>
    obtain ⟨ms',rfl,values⟩ := prunedFields_object.mp pruned
    exact .inr ⟨ms,ms',rfl,rfl,values⟩
  | _ => exact .inl ⟨rfl,(prunedFields_other rfl).mp pruned⟩

theorem PrunedUnder.schema (under : PrunedUnder data name v v')
    (place : position? name = some .schema) : Pruned data v v' := by
  rwa [PrunedUnder,place] at under

theorem PrunedUnder.schemas (under : PrunedUnder data name v v')
    (place : position? name = some .schemas) : PrunedArray data v v' := by
  rwa [PrunedUnder,place] at under

theorem PrunedUnder.fields (under : PrunedUnder data name v v')
    (place : position? name = some .fields) : PrunedFields data v v' := by
  rwa [PrunedUnder,place] at under

theorem PrunedUnder.either (under : PrunedUnder data name v v')
    (place : position? name = some .either) :
    if v.items?.isSome then PrunedArray data v v' else Pruned data v v' := by
  rwa [PrunedUnder,place] at under

/-- Values under keywords that hold no schemas. -/
theorem PrunedUnder.flat (under : PrunedUnder data name v v') (known : isUnknown name = false)
    (place : position? name = none) : data v v' := by
  rw [PrunedUnder,place] at under
  exact under.resolve_left (by simp [known])

theorem optionRel_cases {α β : Type} {R : α → β → Prop} {x : Option α} {y : Option β}
    (both : Option.Rel R x y) :
    x = none ∧ y = none ∨ ∃ a b, x = some a ∧ y = some b ∧ R a b := by
  cases both with
  | none => exact .inl ⟨rfl,rfl⟩
  | some same => exact .inr ⟨_,_,rfl,rfl,same⟩

theorem optionRel_some {α β : Type} {R : α → β → Prop} {a : α} {y : Option β}
    (both : Option.Rel R (some a) y) : ∃ b, y = some b ∧ R a b := by
  cases both with
  | some same => exact ⟨_,rfl,same⟩

theorem optionRel_isSome {α β : Type} {R : α → β → Prop} {x : Option α} {y : Option β}
    (both : Option.Rel R x y) : y.isSome = x.isSome := by
  cases both <;> rfl

/-- Keywords that say something stay. -/
theorem PrunedMembers.lookup (pruned : PrunedMembers data ms ms') (busy : isIdle name = false) :
    Option.Rel (PrunedUnder data name) (Json.lookup name ms) (Json.lookup name ms') := by
  induction ms generalizing ms' with
  | nil =>
    rw [PrunedMembers] at pruned
    rw [pruned]
    exact .none
  | cons m rest ih =>
    obtain ⟨k,v⟩ := m
    rcases prunedMembers_cons.mp pruned with ⟨idle,pruned⟩ | ⟨v',rest',rfl,here,pruned⟩
    · have other : k ≠ name := by
        rintro rfl
        simp [busy] at idle
      rw [Json.lookup,if_neg other]
      exact ih pruned
    · rw [Json.lookup,Json.lookup]
      split
      · next same => exact .some (same ▸ here)
      · exact ih pruned

theorem PrunedValues.lookup (pruned : PrunedValues data ms ms') (name : String) :
    Option.Rel (Pruned data) (Json.lookup name ms) (Json.lookup name ms') := by
  have each := prunedValues_iff.mp pruned
  clear pruned
  induction each with
  | nil => exact .none
  | @cons m m' _ _ both _ ih =>
    obtain ⟨k,v⟩ := m
    obtain ⟨_,v'⟩ := m'
    obtain ⟨rfl,here⟩ := both
    rw [Json.lookup,Json.lookup]
    split
    · exact .some here
    · exact ih

end

/-! A schema that loses nothing. -/

section
variable {data : Json → Json → Prop}

mutual

theorem Pruned.refl (same : ∀ v, data v v) : ∀ v : Json, Pruned data v v
  | .object ms => pruned_object.mpr ⟨ms,rfl,PrunedMembers.refl same ms⟩
  | .null | .bool _ | .number _ | .string _ | .array _ => (pruned_other rfl).mpr rfl

theorem PrunedMembers.refl (same : ∀ v, data v v) :
    ∀ ms : List (String × Json), PrunedMembers data ms ms
  | [] => by rw [PrunedMembers]
  | (name,v) :: rest => by
    refine .keep ?_ (PrunedMembers.refl same rest)
    have one := Pruned.refl same v
    have several := PrunedArray.refl same v
    unfold PrunedUnder
    split
    · exact one
    · exact several
    · split
      · exact several
      · exact one
    · exact PrunedFields.refl same v
    · exact .inr (same v)

theorem PrunedArray.refl (same : ∀ v, data v v) : ∀ v : Json, PrunedArray data v v
  | .array vs => prunedArray_array.mpr ⟨vs,rfl,PrunedItems.refl same vs⟩
  | .null | .bool _ | .number _ | .string _ | .object _ => (prunedArray_other rfl).mpr (same _)

theorem PrunedItems.refl (same : ∀ v, data v v) : ∀ vs : List Json, PrunedItems data vs vs
  | [] => by rw [PrunedItems]
  | v :: rest => by
    rw [PrunedItems]
    exact ⟨v,rest,rfl,Pruned.refl same v,PrunedItems.refl same rest⟩

theorem PrunedFields.refl (same : ∀ v, data v v) : ∀ v : Json, PrunedFields data v v
  | .object ms => prunedFields_object.mpr ⟨ms,rfl,PrunedValues.refl same ms⟩
  | .null | .bool _ | .number _ | .string _ | .array _ => (prunedFields_other rfl).mpr (same _)

theorem PrunedValues.refl (same : ∀ v, data v v) :
    ∀ ms : List (String × Json), PrunedValues data ms ms
  | [] => by rw [PrunedValues]
  | (name,v) :: rest => by
    rw [PrunedValues]
    exact ⟨v,rest,rfl,Pruned.refl same v,PrunedValues.refl same rest⟩

end

end

/-! What counts as the same may count as the same by a wider measure. -/

section
variable {data wider : Json → Json → Prop}

mutual

theorem Pruned.mono (more : ∀ v v', data v v' → wider v v') :
    ∀ v v' : Json, Pruned data v v' → Pruned wider v v'
  | .object ms, _, pruned => by
    obtain ⟨ms',rfl,members⟩ := pruned_object.mp pruned
    exact pruned_object.mpr ⟨ms',rfl,PrunedMembers.mono more ms ms' members⟩
  | .null, _, pruned | .bool _, _, pruned | .number _, _, pruned | .string _, _, pruned
  | .array _, _, pruned => (pruned_other rfl).mpr ((pruned_other rfl).mp pruned)

theorem PrunedMembers.mono (more : ∀ v v', data v v' → wider v v') :
    ∀ ms ms' : List (String × Json), PrunedMembers data ms ms' → PrunedMembers wider ms ms'
  | [], _, pruned => by rwa [PrunedMembers] at pruned ⊢
  | (name,v) :: rest, ms', pruned => by
    rcases prunedMembers_cons.mp pruned with ⟨idle,later⟩ | ⟨v',rest',rfl,here,later⟩
    · exact .drop idle (PrunedMembers.mono more rest ms' later)
    · refine .keep ?_ (PrunedMembers.mono more rest rest' later)
      have one := Pruned.mono more v v'
      have several := PrunedArray.mono more v v'
      unfold PrunedUnder at here ⊢
      split at here
      · exact one here
      · exact several here
      · split
        · next array => exact several ((if_pos array).mp here)
        · next plain => exact one ((if_neg plain).mp here)
      · exact PrunedFields.mono more v v' here
      · exact here.imp_right (more v v')

theorem PrunedArray.mono (more : ∀ v v', data v v' → wider v v') :
    ∀ v v' : Json, PrunedArray data v v' → PrunedArray wider v v'
  | .array vs, _, pruned => by
    obtain ⟨vs',rfl,items⟩ := prunedArray_array.mp pruned
    exact prunedArray_array.mpr ⟨vs',rfl,PrunedItems.mono more vs vs' items⟩
  | .null, _, pruned | .bool _, _, pruned | .number _, _, pruned | .string _, _, pruned
  | .object _, _, pruned =>
    (prunedArray_other rfl).mpr (more _ _ ((prunedArray_other rfl).mp pruned))

theorem PrunedItems.mono (more : ∀ v v', data v v' → wider v v') :
    ∀ vs vs' : List Json, PrunedItems data vs vs' → PrunedItems wider vs vs'
  | [], _, pruned => by rwa [PrunedItems] at pruned ⊢
  | v :: rest, _, pruned => by
    rw [PrunedItems] at pruned ⊢
    obtain ⟨v',rest',rfl,here,later⟩ := pruned
    exact ⟨v',rest',rfl,Pruned.mono more v v' here,PrunedItems.mono more rest rest' later⟩

theorem PrunedFields.mono (more : ∀ v v', data v v' → wider v v') :
    ∀ v v' : Json, PrunedFields data v v' → PrunedFields wider v v'
  | .object ms, _, pruned => by
    obtain ⟨ms',rfl,values⟩ := prunedFields_object.mp pruned
    exact prunedFields_object.mpr ⟨ms',rfl,PrunedValues.mono more ms ms' values⟩
  | .null, _, pruned | .bool _, _, pruned | .number _, _, pruned | .string _, _, pruned
  | .array _, _, pruned =>
    (prunedFields_other rfl).mpr (more _ _ ((prunedFields_other rfl).mp pruned))

theorem PrunedValues.mono (more : ∀ v v', data v v' → wider v v') :
    ∀ ms ms' : List (String × Json), PrunedValues data ms ms' → PrunedValues wider ms ms'
  | [], _, pruned => by rwa [PrunedValues] at pruned ⊢
  | (name,v) :: rest, _, pruned => by
    rw [PrunedValues] at pruned ⊢
    obtain ⟨v',rest',rfl,here,later⟩ := pruned
    exact ⟨v',rest',rfl,Pruned.mono more v v' here,PrunedValues.mono more rest rest' later⟩

end

end

/-! What is left is no deeper. -/

section
variable {data : Json → Json → Prop}

mutual

theorem Pruned.depth_le (flat : ∀ v v', data v v' → v'.depth ≤ v.depth) :
    ∀ v v' : Json, Pruned data v v' → v'.depth ≤ v.depth
  | .object ms, _, pruned => by
    obtain ⟨ms',rfl,members⟩ := pruned_object.mp pruned
    exact Nat.succ_le_succ (PrunedMembers.depth_le flat ms ms' members)
  | .null, _, pruned | .bool _, _, pruned | .number _, _, pruned | .string _, _, pruned
  | .array _, _, pruned => Nat.le_of_eq (congrArg Json.depth ((pruned_other rfl).mp pruned))

theorem PrunedMembers.depth_le (flat : ∀ v v', data v v' → v'.depth ≤ v.depth) :
    ∀ ms ms' : List (String × Json), PrunedMembers data ms ms' →
    Json.membersDepth ms' ≤ Json.membersDepth ms
  | [], _, pruned => by
    rw [PrunedMembers] at pruned
    exact Nat.le_of_eq (congrArg Json.membersDepth pruned)
  | (name,v) :: rest, ms', pruned => by
    rcases prunedMembers_cons.mp pruned with ⟨_,later⟩ | ⟨v',rest',rfl,here,later⟩
    · exact le_max_of_le_right (PrunedMembers.depth_le flat rest ms' later)
    · refine max_le_max ?_ (PrunedMembers.depth_le flat rest rest' later)
      unfold PrunedUnder at here
      split at here
      · exact Pruned.depth_le flat v v' here
      · exact PrunedArray.depth_le flat v v' here
      · split at here
        · exact PrunedArray.depth_le flat v v' here
        · exact Pruned.depth_le flat v v' here
      · exact PrunedFields.depth_le flat v v' here
      · exact here.elim (·.2) (flat v v')

theorem PrunedArray.depth_le (flat : ∀ v v', data v v' → v'.depth ≤ v.depth) :
    ∀ v v' : Json, PrunedArray data v v' → v'.depth ≤ v.depth
  | .array vs, _, pruned => by
    obtain ⟨vs',rfl,items⟩ := prunedArray_array.mp pruned
    exact Nat.succ_le_succ (PrunedItems.depth_le flat vs vs' items)
  | .null, _, pruned | .bool _, _, pruned | .number _, _, pruned | .string _, _, pruned
  | .object _, _, pruned => flat _ _ ((prunedArray_other rfl).mp pruned)

theorem PrunedItems.depth_le (flat : ∀ v v', data v v' → v'.depth ≤ v.depth) :
    ∀ vs vs' : List Json, PrunedItems data vs vs' → Json.itemsDepth vs' ≤ Json.itemsDepth vs
  | [], _, pruned => by
    rw [PrunedItems] at pruned
    exact Nat.le_of_eq (congrArg Json.itemsDepth pruned)
  | v :: rest, _, pruned => by
    rw [PrunedItems] at pruned
    obtain ⟨v',rest',rfl,here,later⟩ := pruned
    exact max_le_max (Pruned.depth_le flat v v' here)
      (PrunedItems.depth_le flat rest rest' later)

theorem PrunedFields.depth_le (flat : ∀ v v', data v v' → v'.depth ≤ v.depth) :
    ∀ v v' : Json, PrunedFields data v v' → v'.depth ≤ v.depth
  | .object ms, _, pruned => by
    obtain ⟨ms',rfl,values⟩ := prunedFields_object.mp pruned
    exact Nat.succ_le_succ (PrunedValues.depth_le flat ms ms' values)
  | .null, _, pruned | .bool _, _, pruned | .number _, _, pruned | .string _, _, pruned
  | .array _, _, pruned => flat _ _ ((prunedFields_other rfl).mp pruned)

theorem PrunedValues.depth_le (flat : ∀ v v', data v v' → v'.depth ≤ v.depth) :
    ∀ ms ms' : List (String × Json), PrunedValues data ms ms' →
    Json.membersDepth ms' ≤ Json.membersDepth ms
  | [], _, pruned => by
    rw [PrunedValues] at pruned
    exact Nat.le_of_eq (congrArg Json.membersDepth pruned)
  | (name,v) :: rest, _, pruned => by
    rw [PrunedValues] at pruned
    obtain ⟨v',rest',rfl,here,later⟩ := pruned
    exact max_le_max (Pruned.depth_le flat v v' here)
      (PrunedValues.depth_le flat rest rest' later)

end

end

/-- The values are the same, or both are objects, which say nothing where there are no schemas. -/
def DataAlike (v v' : Json) : Prop := v' = v ∨ v.isObject = true ∧ v'.isObject = true

/-! What gathering looks at in a schema is still there. -/

section
variable {name : String} {v v' : Json} {ms ms' : List (String × Json)}

theorem position?_idle (idle : isIdle name = true) : position? name = none := by
  have busy : ∀ k ∈ ["not","additionalItems","additionalProperties","allOf","anyOf","oneOf","items",
      "definitions","properties","patternProperties","dependencies"], isIdle k = false := by
    decide +kernel
  unfold position?
  split
  all_goals first
    | rfl
    | exact absurd (idle.symm.trans (busy _ (by simp))) (by simp)

theorem isIdle_position {place : Position} (found : position? name = some place) :
    isIdle name = false := by
  rw [Bool.eq_false_iff]
  intro idle
  rw [position?_idle idle] at found
  cases found

theorem isUnknown_of_busy (busy : isIdle name = false) : isUnknown name = false := by
  rw [isIdle,Bool.or_eq_false_iff] at busy
  exact busy.2

theorem PrunedMembers.data {data : Json → Json → Prop} (pruned : PrunedMembers data ms ms')
    (busy : isIdle name = false) (flat : position? name = none) :
    Option.Rel data (Json.lookup name ms) (Json.lookup name ms') := by
  rcases optionRel_cases (pruned.lookup busy) with ⟨none,none'⟩ | ⟨v,v',one,one',under⟩
  · rw [none,none']
    exact .none
  · rw [one,one']
    exact .some (under.flat (isUnknown_of_busy busy) flat)

theorem DataAlike.string? (alike : DataAlike v v') : v'.string? = v.string? := by
  rcases alike with rfl | ⟨object,object'⟩
  · rfl
  · cases v <;> cases v' <;> simp_all [Json.isObject,Json.string?]

theorem identity_busy : ∀ k ∈ ["$ref","$schema","id"], isIdle k = false ∧ position? k = none := by
  decide +kernel

theorem stringMember?_pruned (pruned : PrunedMembers DataAlike ms ms')
    (listed : name ∈ ["$ref","$schema","id"]) :
    stringMember? name ms' = stringMember? name ms := by
  obtain ⟨busy,flat⟩ := identity_busy name listed
  unfold stringMember?
  rcases optionRel_cases (pruned.data busy flat) with ⟨none,none'⟩ | ⟨v,v',one,one',alike⟩
  · rw [none,none']
  · rw [one,one']
    exact alike.string?

theorem refers_pruned (pruned : PrunedMembers DataAlike ms ms') :
    (Json.lookup "$ref" ms').isSome = (Json.lookup "$ref" ms).isSome := by
  obtain ⟨busy,flat⟩ := identity_busy "$ref" (by simp)
  exact optionRel_isSome (pruned.data busy flat)

theorem selfId?_pruned (pruned : PrunedMembers DataAlike ms ms') : selfId? ms' = selfId? ms := by
  rw [selfId?,selfId?,refers_pruned pruned,stringMember?_pruned pruned (by simp)]

theorem anchor?_pruned (pruned : PrunedMembers DataAlike ms ms') : anchor? ms' = anchor? ms := by
  rw [anchor?,anchor?,stringMember?_pruned pruned (by simp)]

theorem baseWithin_pruned (pruned : PrunedMembers DataAlike ms ms') (base : Uri) :
    baseWithin base ms' = baseWithin base ms := by
  rw [baseWithin,baseWithin,selfId?_pruned pruned]

/-- An object of schemas declares what it declared too, where it is taken for a schema. -/
theorem baseWithin_values (pruned : PrunedValues DataAlike ms ms')
    (base : Uri) : baseWithin base ms' = baseWithin base ms := by
  have refers : (Json.lookup "$ref" ms').isSome = (Json.lookup "$ref" ms).isSome :=
    optionRel_isSome (pruned.lookup "$ref")
  have named : stringMember? "id" ms' = stringMember? "id" ms := by
    unfold stringMember?
    rcases optionRel_cases (pruned.lookup "id") with ⟨none,none'⟩ | ⟨v,v',one,one',here⟩
    · rw [none,none']
    · rw [one,one']
      rcases here.cases with rfl | ⟨_,_,rfl,rfl,_⟩ <;> rfl
  rw [baseWithin,baseWithin,selfId?,selfId?,refers,named]

end

end ApiReview.Schema
