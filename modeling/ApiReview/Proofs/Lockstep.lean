import ApiReview.Proofs.Alike
import ApiReview.Proofs.Compiled
import ApiReview.Proofs.Twins

/-! Reading a schema that has lost members. Members that say nothing are passed over, so references
are met in the same order, and what is read cannot be told apart. -/
namespace ApiReview.Schema

structure Table.Alike (t t' : Table) : Prop where
  keys : t'.keys = t.keys
  schemas : List.Forall₂ Schema.Alike t.schemas.toList t'.schemas.toList

/-- The first reading forgets no identifier. If it meets known ones alone, then from a table that is
alike the second one comes to something that goes with what the first one comes to. -/
def KeepsUp (known : Uri → Prop) {α : Type} (R : α → α → Prop) (m m' : Reading α) : Prop :=
  ∀ t a u, m t = .ok (a,u) → (∀ uri ∈ t.keys, uri ∈ u.keys) ∧
    ((∀ uri ∈ u.keys, known uri) → ∀ t', t.Alike t' →
      ∃ a' u', m' t' = .ok (a',u') ∧ R a a' ∧ u.Alike u')

namespace KeepsUp

section
variable {known : Uri → Prop} {α β : Type} {R : α → α → Prop} {Q : β → β → Prop}

theorem ok {a a' : α} (goes : R a a') : KeepsUp known R (pure a) (pure a') := by
  rintro t _ _ ⟨⟩
  exact ⟨fun _ old => old,fun _ t' alike => ⟨a',t',rfl,goes,alike⟩⟩

theorem refuse (e : Error) (m' : Reading α) : KeepsUp known R (throw e) m' := by
  rintro t _ _ ⟨⟩

theorem bind [Std.Refl R] {m m' : Reading α} {f f' : α → Reading β} (first : KeepsUp known R m m')
    (rest : ∀ a a', R a a' → KeepsUp known Q (f a) (f' a')) :
    KeepsUp known Q (m >>= f) (m' >>= f') := by
  intro t b v done
  obtain ⟨⟨a,u⟩,one,two⟩ := Reading.bind_iff.mp done
  obtain ⟨stay,early⟩ := first t a u one
  -- That the rest forgets nothing is known before there is a second reading to compare it with.
  have further := (rest a a (Std.Refl.refl a) u b v two).1
  refine ⟨fun uri old => further uri (stay uri old),fun fine t' alike => ?_⟩
  obtain ⟨a',u',one',goes,alike⟩ := early (fun uri met => fine uri (further uri met)) t' alike
  obtain ⟨b',v',two',goes,alike⟩ := (rest a a' goes u b v two).2 fine u' alike
  exact ⟨b',v',Reading.bind_iff.mpr ⟨(a',u'),one',two'⟩,goes,alike⟩

/-- Readings of the same thing. -/
theorem congruent (known : Uri → Prop) : Congruent fun α => KeepsUp (α := α) known Eq where
  ok _ := ok rfl
  refuse e := refuse e _
  bind first rest := first.bind fun _ _ same => same ▸ rest _

end

end KeepsUp

instance : Std.Refl Alike := ⟨Alike.refl⟩

instance : Std.Refl (List.Forall₂ Alike) := ⟨schemasAlike_refl⟩

instance : Std.Refl (FieldsAlike (κ := String)) := ⟨namedAlike_refl⟩

instance : Std.Refl (FieldsAlike (κ := Pattern)) := ⟨matchingAlike_refl⟩

instance : Std.Refl (Option.Rel Keyword.Alike) where
  refl
    | none => .none
    | some k => .some (.refl k)

/-! What keywords look at beside their values. -/

section
variable {name : String} {v v' : Json} {ms ms' : List (String × Json)}

theorem limits_busy : ∀ k ∈ ["exclusiveMinimum","exclusiveMaximum"],
    isIdle k = false ∧ position? k = none := by
  decide +kernel

theorem DataAlike.beq_bool (alike : DataAlike v v') (b : Bool) :
    (v' == .bool b) = (v == .bool b) := by
  rcases alike with rfl | ⟨object,object'⟩
  · rfl
  · cases v <;> cases object
    cases v' <;> cases object'
    rfl

theorem isTrue_pruned (pruned : PrunedMembers DataAlike ms ms')
    (listed : name ∈ ["exclusiveMinimum","exclusiveMaximum"]) : isTrue name ms' = isTrue name ms := by
  obtain ⟨busy,flat⟩ := limits_busy name listed
  unfold isTrue
  rcases optionRel_cases (pruned.data busy flat) with ⟨none,none'⟩ | ⟨v,v',one,one',rfl | both⟩
  · rw [none,none']
  · rw [one,one']
  · rw [one,one']
    cases v <;> cases v' <;> simp_all [Json.isObject]

theorem others_busy : ∀ k ∈ ["additionalProperties","items","properties","patternProperties"],
    isIdle k = false := by
  decide +kernel

theorem othersFree_pruned (pruned : PrunedMembers DataAlike ms ms') :
    othersFree ms' = othersFree ms := by
  have both := pruned.lookup (others_busy "additionalProperties" (by simp))
  unfold othersFree
  rcases optionRel_cases both with ⟨none,none'⟩ | ⟨v,v',one,one',under⟩
  · rw [none,none']
  · rw [one,one']
    rcases Pruned.cases under with rfl | ⟨_,_,rfl,rfl,_⟩
    · rfl
    · rfl

end

/-! Members of schemas. -/

section
variable {known : Uri → Prop} {S S' : Setting} {base : Uri} {name : String} {v v' : Json}

theorem DataAlike.keepsUp {α : Type} {R : α → α → Prop} {m : Json → Reading α}
    (alike : DataAlike v v') (same : ∀ v, KeepsUp known R (m v) (m v))
    (refuses : ∀ ms, ∃ e, m (.object ms) = throw e) : KeepsUp known R (m v) (m v') := by
  rcases alike with rfl | ⟨object,_⟩
  · exact same v'
  · cases v with
    | object ms =>
      obtain ⟨e,refused⟩ := refuses ms
      rw [refused]
      exact .refuse e _
    | _ => cases object

/-- What goes with a schema in which some members are less deep has been read. -/
def Inner (known : Uri → Prop) (S S' : Setting) (deep : Nat) : Prop :=
  ∀ v v' : Json, v.depth < deep → Pruned DataAlike v v' → ∀ base,
    KeepsUp known Alike (ofJson S base v) (ofJson S' base v')

variable {deep : Nat} (inner : Inner known S S' deep)
include inner

theorem itemsOf_keepsUp {vs vs' : List Json} (pruned : PrunedItems DataAlike vs vs')
    (lower : Json.itemsDepth vs < deep) :
    KeepsUp known (List.Forall₂ Alike) (itemsOf S base vs) (itemsOf S' base vs') := by
  induction vs generalizing vs' with
  | nil =>
    rw [PrunedItems] at pruned
    rw [pruned]
    exact .ok .nil
  | cons v rest ih =>
    rw [PrunedItems] at pruned
    obtain ⟨v',rest',rfl,here,later⟩ := pruned
    obtain ⟨one,others⟩ := Nat.max_lt.mp lower
    exact (inner v v' one here base).bind fun s s' alike =>
      (ih later others).bind fun ss ss' each => .ok (.cons alike each)

theorem schemasOf_keepsUp (pruned : PrunedArray DataAlike v v') (lower : v.depth < deep) :
    KeepsUp known (List.Forall₂ Alike) (schemasOf S base v) (schemasOf S' base v') := by
  cases v with
  | array vs =>
    obtain ⟨vs',rfl,items⟩ := prunedArray_array.mp pruned
    exact itemsOf_keepsUp inner items (Nat.lt_of_succ_lt lower)
  | _ => exact .refuse _ _

theorem valuesOf_keepsUp {ms ms' : List (String × Json)} (pruned : PrunedValues DataAlike ms ms')
    (lower : Json.membersDepth ms < deep) :
    KeepsUp known FieldsAlike (valuesOf S base ms) (valuesOf S' base ms') := by
  induction ms generalizing ms' with
  | nil =>
    rw [PrunedValues] at pruned
    rw [pruned]
    exact .ok .nil
  | cons m rest ih =>
    obtain ⟨name,v⟩ := m
    rw [PrunedValues] at pruned
    obtain ⟨v',rest',rfl,here,later⟩ := pruned
    obtain ⟨one,others⟩ := Nat.max_lt.mp lower
    exact (inner v v' one here base).bind fun s s' alike =>
      (ih later others).bind fun ss ss' each => .ok (.cons alike each)

theorem fieldsOf_keepsUp (pruned : PrunedFields DataAlike v v') (lower : v.depth < deep) :
    KeepsUp known FieldsAlike (fieldsOf S base v) (fieldsOf S' base v') := by
  cases v with
  | object ms =>
    obtain ⟨ms',rfl,values⟩ := prunedFields_object.mp pruned
    exact valuesOf_keepsUp inner values (Nat.lt_of_succ_lt lower)
  | _ => exact .refuse _ _

/-- A list of members that are required is no schema, and stays. -/
theorem dependentsOf_keepsUp {ms ms' : List (String × Json)}
    (pruned : PrunedValues DataAlike ms ms') (lower : Json.membersDepth ms < deep) :
    KeepsUp known FieldsAlike (dependentsOf S base ms) (dependentsOf S' base ms') := by
  induction ms generalizing ms' with
  | nil =>
    rw [PrunedValues] at pruned
    rw [pruned]
    exact .ok .nil
  | cons m rest ih =>
    obtain ⟨name,v⟩ := m
    rw [PrunedValues] at pruned
    obtain ⟨v',rest',rfl,here,later⟩ := pruned
    obtain ⟨one,others⟩ := Nat.max_lt.mp lower
    have last (s s' : Schema) (alike : Alike s s') : KeepsUp known FieldsAlike
        (do return (name,s) :: (← dependentsOf S base rest))
        (do return (name,s') :: (← dependentsOf S' base rest')) :=
      (ih later others).bind fun ss ss' each => .ok (.cons alike each)
    have plain := (inner v v' one here base).bind last
    cases v with
    | array vs =>
      obtain rfl := (pruned_other rfl).mp here
      refine KeepsUp.bind (stringsOf_alike (KeepsUp.congruent known) _) ?_
      rintro names _ rfl
      exact KeepsUp.bind (.ok (.refl _)) last
    | object ms =>
      obtain ⟨ms',rfl,_⟩ := pruned_object.mp here
      exact plain
    | _ =>
      obtain rfl := (pruned_other rfl).mp here
      exact plain

theorem dependenciesOf_keepsUp (pruned : PrunedFields DataAlike v v') (lower : v.depth < deep) :
    KeepsUp known FieldsAlike (dependenciesOf S base v) (dependenciesOf S' base v') := by
  cases v with
  | object ms =>
    obtain ⟨ms',rfl,values⟩ := prunedFields_object.mp pruned
    exact dependentsOf_keepsUp inner values (Nat.lt_of_succ_lt lower)
  | _ => exact .refuse _ _

end

/-! Keywords. -/

/-- A member that stayed, with the ways to read what was and what is in it. -/
structure Part.Beside (known : Uri → Prop) (p p' : Part) : Prop where
  name : p'.name = p.name
  value : PrunedUnder DataAlike p.name p.value p'.value
  schema : Pruned DataAlike p.value p'.value → KeepsUp known Schema.Alike p.schema p'.schema
  schemas : PrunedArray DataAlike p.value p'.value →
    KeepsUp known (List.Forall₂ Schema.Alike) p.schemas p'.schemas
  fields : PrunedFields DataAlike p.value p'.value → KeepsUp known FieldsAlike p.fields p'.fields
  dependencies : PrunedFields DataAlike p.value p'.value →
    KeepsUp known FieldsAlike p.dependencies p'.dependencies

section
variable {known : Uri → Prop} {S S' : Setting} {base : Uri} {deep : Nat} {name : String}
  {v v' : Json} {ms ms' : List (String × Json)}

theorem partOf_beside (inner : Inner known S S' deep) (lower : v.depth < deep)
    (under : PrunedUnder DataAlike name v v') :
    (partOf S base (name,v)).Beside known (partOf S' base (name,v')) where
  name := rfl
  value := under
  schema pruned := inner v v' lower pruned base
  schemas pruned := schemasOf_keepsUp inner pruned lower
  fields pruned := fieldsOf_keepsUp inner pruned lower
  dependencies pruned := dependenciesOf_keepsUp inner pruned lower

theorem find?_beside (inner : Inner known S S' deep) (lower : Json.membersDepth ms < deep)
    (pruned : PrunedMembers DataAlike ms ms') (busy : isIdle name = false) :
    Option.Rel (Part.Beside known) (Part.find? name (partsOf S base ms))
      (Part.find? name (partsOf S' base ms')) := by
  rw [find?_partsOf,find?_partsOf]
  rcases optionRel_cases (pruned.lookup busy) with ⟨none,none'⟩ | ⟨v,v',one,one',under⟩
  · rw [none,none']
    exact .none
  · have less := Json.depth_le_membersDepth (Json.mem_of_lookup one)
    rw [one,one']
    exact .some (partOf_beside inner (Nat.lt_of_le_of_lt less lower) under)

end

section
variable {known : Uri → Prop} {p p' : Part} {parts parts' : List Part}
  {ms ms' : List (String × Json)}

theorem patternOf_keepsUp (text : String) (v v' : Json) :
    KeepsUp known Eq (patternOf text v) (patternOf text v') := by
  unfold patternOf
  split
  · exact .ok rfl
  · exact .refuse _ _

theorem FieldsAlike.zip {fs fs' : List (String × Schema)} (fields : FieldsAlike fs fs')
    (patterns : List Pattern) :
    FieldsAlike (patterns.zip (fs.map (·.2))) (patterns.zip (fs'.map (·.2))) := by
  induction fields generalizing patterns with
  | nil => cases patterns <;> exact .nil
  | cons alike _ ih =>
    cases patterns with
    | nil => exact .nil
    | cons p rest => exact .cons alike (ih rest)

theorem matchingFields_keepsUp (beside : p.Beside known p')
    (pruned : PrunedFields DataAlike p.value p'.value) :
    KeepsUp known FieldsAlike (matchingFields p) (matchingFields p') := by
  have each : Beside ((p.value.members?).getD []) ((p'.value.members?).getD []) := by
    rcases pruned.cases with ⟨plain,same⟩ | ⟨ms,ms',object,object',values⟩
    · rw [same.resolve_right (by simp [plain])]
      exact .refl _
    · rw [object,object']
      exact prunedValues_iff.mp values
  unfold matchingFields
  refine KeepsUp.bind (R := Eq) ((KeepsUp.congruent known).pairwise (each.imp ?_)) ?_
  · rintro ⟨text,w⟩ ⟨_,w'⟩ ⟨rfl,_⟩
    exact patternOf_keepsUp _ w w'
  · rintro texts _ rfl
    exact (beside.fields pruned).bind fun fs fs' fields => .ok (fields.zip texts)

theorem find?_name {name : String} {q : Part} (found : Part.find? name parts = some q) :
    q.name = name := by
  have same := List.find?_some found
  simpa using same

theorem memberKeyword_keepsUp (members : PrunedMembers DataAlike ms ms')
    (found : ∀ name, isIdle name = false →
      Option.Rel (Part.Beside known) (Part.find? name parts) (Part.find? name parts'))
    (beside : p.Beside known p') (pruned : Pruned DataAlike p.value p'.value) :
    KeepsUp known (Option.Rel Keyword.Alike) (memberKeyword ms parts p)
      (memberKeyword ms' parts' p') := by
  have patterns := found "patternProperties" (others_busy _ (by simp))
  have names := found "properties" (others_busy _ (by simp))
  have matching : KeepsUp known FieldsAlike
      (((Part.find? "patternProperties" parts).map matchingFields).getD (pure []))
      (((Part.find? "patternProperties" parts').map matchingFields).getD (pure [])) := by
    rcases optionRel_cases patterns with ⟨none,none'⟩ | ⟨q,q',one,one',both⟩
    · rw [none,none']
      exact .ok .nil
    · rw [one,one']
      exact matchingFields_keepsUp both (both.value.fields (find?_name one ▸ rfl))
  have named : KeepsUp known FieldsAlike
      (((Part.find? "properties" parts).map (·.fields)).getD (pure []))
      (((Part.find? "properties" parts').map (·.fields)).getD (pure [])) := by
    rcases optionRel_cases names with ⟨none,none'⟩ | ⟨q,q',one,one',both⟩
    · rw [none,none']
      exact .ok .nil
    · rw [one,one']
      exact both.fields (both.value.fields (find?_name one ▸ rfl))
  have absent {name : String} (both : Option.Rel (Part.Beside known) (Part.find? name parts)
      (Part.find? name parts')) :
      (Part.find? name parts').isNone = (Part.find? name parts).isNone := by
    rw [← Option.not_isSome,← Option.not_isSome,optionRel_isSome both]
  have rest := beside.schema pruned
  unfold memberKeyword
  rw [othersFree_pruned members,absent patterns,absent names]
  split
  · exact .ok .none
  · refine matching.bind fun fs fs' fields => named.bind fun gs gs' fields' => ?_
    have last : KeepsUp known (Option.Rel Keyword.Alike) _ _ := rest.bind fun s s' alike =>
      .ok (.some (.members fields' fields alike))
    rcases pruned.cases with same | ⟨os,os',object,object',_⟩
    · rw [same]
      split
      · split
        · exact .ok (.some .noMembers)
        · exact .ok (.some (.onlyMembers fields' fields))
      · exact last
    · rw [object,object']
      exact last

theorem itemsKeyword_keepsUp (beside : p.Beside known p')
    (either : if p.value.items?.isSome then PrunedArray DataAlike p.value p'.value
      else Pruned DataAlike p.value p'.value) :
    KeepsUp known (Option.Rel Keyword.Alike)
      (match p.value with
        | .array _ => do return some (.firstItems (← p.schemas))
        | _ => do return some (.items (← p.schema)))
      (match p'.value with
        | .array _ => do return some (.firstItems (← p'.schemas))
        | _ => do return some (.items (← p'.schema))) := by
  split at either
  · next array =>
    have each : KeepsUp known (Option.Rel Keyword.Alike) _ _ :=
      (beside.schemas either).bind fun ss ss' each => .ok (.some (.firstItems each))
    generalize p.value = w at array either ⊢
    generalize p'.value = w' at either ⊢
    cases w with
    | array vs =>
      obtain ⟨vs',rfl,_⟩ := prunedArray_array.mp either
      exact each
    | _ => cases array
  · next plain =>
    have one : KeepsUp known (Option.Rel Keyword.Alike) _ _ :=
      (beside.schema either).bind fun s s' alike => .ok (.some (.items alike))
    have value := Pruned.cases either
    generalize p.value = w at plain value ⊢
    generalize p'.value = w' at value ⊢
    rcases value with rfl | ⟨os,os',rfl,rfl,_⟩
    · cases w' with
      | array vs => exact absurd rfl plain
      | _ => exact one
    · exact one

theorem restKeyword_keepsUp (members : PrunedMembers DataAlike ms ms')
    (beside : p.Beside known p') (pruned : Pruned DataAlike p.value p'.value) :
    KeepsUp known (Option.Rel Keyword.Alike) (restKeyword ms p) (restKeyword ms' p') := by
  have rest := beside.schema pruned
  have both := members.lookup (others_busy "items" (by simp))
  unfold restKeyword
  rcases optionRel_cases both with ⟨none,none'⟩ | ⟨v,v',one,one',under⟩
  · rw [none,none']
    exact .ok .none
  · rw [one,one']
    replace under := under.either rfl
    split at under
    · next array =>
      cases v with
      | array first =>
        obtain ⟨first',rfl,items⟩ := prunedArray_array.mp under
        have value := pruned.cases
        generalize p.value = w at value ⊢
        generalize p'.value = w' at value ⊢
        rcases value with rfl | ⟨os,os',rfl,rfl,_⟩
        · cases w' with
          | bool b =>
            cases b
            · exact .ok (items.length_eq ▸ .some (.noRestItems _))
            · exact .ok .none
          | object os =>
            exact rest.bind fun s s' alike => .ok (items.length_eq ▸ .some (.restItems _ alike))
          | _ => exact .ok .none
        · exact rest.bind fun s s' alike => .ok (items.length_eq ▸ .some (.restItems _ alike))
      | _ => cases array
    · next plain =>
      rcases Pruned.cases under with rfl | ⟨os,os',rfl,rfl,_⟩
      · cases v' with
        | array vs => exact absurd rfl plain
        | _ => exact .ok .none
      · exact .ok .none

/-- A constraint is read from a value that is no object. -/
theorem constraint_keepsUp {α : Type} {m : Json → Reading α} {v v' : Json}
    (alike : DataAlike v v') (same : ∀ v, KeepsUp known Eq (m v) (m v))
    (refuses : ∀ ms, ∃ e, m (.object ms) = throw e) (f : α → Constraint) :
    KeepsUp known (Option.Rel Keyword.Alike) (do return some (.constraint (f (← m v))))
      (do return some (.constraint (f (← m v')))) := by
  refine (alike.keepsUp same refuses).bind ?_
  rintro a _ rfl
  exact .ok (.some (.constraint _))

theorem keyword_keepsUp (members : PrunedMembers DataAlike ms ms')
    (found : ∀ name, isIdle name = false →
      Option.Rel (Part.Beside known) (Part.find? name parts) (Part.find? name parts'))
    (beside : p.Beside known p') (busy : isIdle p.name = false) :
    KeepsUp known (Option.Rel Keyword.Alike) (keyword false ms parts p)
      (keyword false ms' parts' p') := by
  have under := beside.value
  have flat := under.flat (isUnknown_of_busy busy)
  have c := KeepsUp.congruent known
  unfold keyword
  rw [beside.name,isTrue_pruned members (by simp),isTrue_pruned members (by simp),
    othersFree_pruned members]
  dsimp only
  split
  case h_1 same =>
    exact constraint_keepsUp (flat (same ▸ rfl)) (kindsOf_alike c) (fun _ => ⟨_,rfl⟩) .kind
  case h_2 same =>
    refine (flat (same ▸ rfl)).keepsUp (m := fun v => match v with
      | .array vs => return some (Keyword.constraint (.oneOf vs))
      | _ => Reading.refuseKind [.array] v) (fun v => ?_) fun _ => ⟨_,rfl⟩
    split
    · exact .ok (.some (.constraint _))
    · exact .refuse _ _
  case h_3 same | h_4 same | h_5 same =>
    exact constraint_keepsUp (flat (same ▸ rfl)) (numberOf_alike c) (fun _ => ⟨_,rfl⟩) _
  case h_6 same | h_7 same | h_8 same | h_9 same | h_10 same | h_11 same =>
    exact constraint_keepsUp (flat (same ▸ rfl)) (countOf_alike c) (fun _ => ⟨_,rfl⟩) _
  case h_12 same =>
    refine (flat (same ▸ rfl)).keepsUp (m := fun v => do
      let text ← stringOf v
      return some (Keyword.constraint (.pattern (← patternOf text v)))) (fun v => ?_) fun _ => ⟨_,rfl⟩
    refine .bind (stringOf_alike c v) ?_
    rintro text _ rfl
    refine (patternOf_keepsUp text v v).bind ?_
    rintro p _ rfl
    exact .ok (.some (.constraint _))
  case h_13 same =>
    rw [same] at busy
    cases busy
  case h_14 same =>
    rw [(flat (same ▸ rfl)).beq_bool]
    split
    · exact .ok (.some (.constraint _))
    · exact .ok .none
  case h_15 same =>
    refine ((flat (same ▸ rfl)).keepsUp (stringsOf_alike c) fun _ => ⟨_,rfl⟩).bind ?_
    rintro names _ rfl
    exact .ok (.some (.required names))
  case h_16 same =>
    exact (beside.dependencies (under.fields (same ▸ rfl))).bind fun fs fs' fields =>
      .ok (.some (.dependencies fields))
  case h_17 same =>
    split
    · exact (beside.fields (under.fields (same ▸ rfl))).bind fun fs fs' fields =>
        .ok (.some (.properties fields))
    · exact .ok .none
  case h_18 same =>
    split
    · exact (matchingFields_keepsUp beside (under.fields (same ▸ rfl))).bind fun fs fs' fields =>
        .ok (.some (.patternProperties fields))
    · exact .ok .none
  case h_19 same =>
    exact memberKeyword_keepsUp members found beside (under.schema (same ▸ rfl))
  case h_20 same => exact itemsKeyword_keepsUp beside (under.either (same ▸ rfl))
  case h_21 same => exact restKeyword_keepsUp members beside (under.schema (same ▸ rfl))
  case h_22 same =>
    exact (beside.schemas (under.schemas (same ▸ rfl))).bind fun ss ss' each =>
      .ok (.some (.allOf each))
  case h_23 same =>
    exact (beside.schemas (under.schemas (same ▸ rfl))).bind fun ss ss' each =>
      .ok (.some (.anyOf each))
  case h_24 same =>
    exact (beside.schemas (under.schemas (same ▸ rfl))).bind fun ss ss' each =>
      .ok (.some (.oneOf each))
  case h_25 same =>
    exact (beside.schema (under.schema (same ▸ rfl))).bind fun s s' alike =>
      .ok (.some (.not _ _ alike))
  case h_26 => exact .ok .none

/-- What says nothing is passed over. -/
theorem keyword_idle (idle : isIdle p.name = true) (ms : List (String × Json))
    (parts : List Part) : keyword false ms parts p = pure none := by
  have busy : ∀ k ∈ ["type","enum","minimum","maximum","multipleOf","minLength","maxLength",
      "minItems","maxItems","minProperties","maxProperties","pattern","uniqueItems","required",
      "dependencies","properties","patternProperties","additionalProperties","items",
      "additionalItems","allOf","anyOf","oneOf","not"], isIdle k = false := by
    decide +kernel
  unfold keyword
  dsimp only
  split
  case h_13 =>
    split
    · rfl
    · rfl
  case h_26 => rfl
  all_goals
    next same => exact absurd (idle.symm.trans (busy _ (by simp [same]))) (by simp)

end

/-! Schemas. -/

/-- What has been read of the members of a schema, but for those that say nothing. -/
def KeywordsAlike (found found' : List (Option Keyword)) : Prop :=
  List.Forall₂ Keyword.Alike (found.filterMap id) (found'.filterMap id)

instance : Std.Refl KeywordsAlike := ⟨fun found => keywordsAlike_refl (found.filterMap id)⟩

section
variable {known : Uri → Prop} {S S' : Setting} {deep : Nat}

/-- Of the members of a schema, those from some point on. -/
theorem keywords_keepsUp (inner : Inner known S S' deep) {base : Uri} {parts parts' : List Part}
    {ms ms' : List (String × Json)} (members : PrunedMembers DataAlike ms ms')
    (found : ∀ name, isIdle name = false →
      Option.Rel (Part.Beside known) (Part.find? name parts) (Part.find? name parts'))
    {rest rest' : List (String × Json)} (pruned : PrunedMembers DataAlike rest rest')
    (lower : Json.membersDepth rest < deep) :
    KeepsUp known KeywordsAlike ((partsOf S base rest).mapM (keyword false ms parts))
      ((partsOf S' base rest').mapM (keyword false ms' parts')) := by
  induction rest generalizing rest' with
  | nil =>
    rw [PrunedMembers] at pruned
    rw [pruned]
    exact .ok .nil
  | cons m rest ih =>
    obtain ⟨name,v⟩ := m
    obtain ⟨one,others⟩ := Nat.max_lt.mp lower
    have here (v : Json) (S : Setting) (rest : List (String × Json)) :
        partsOf S base ((name,v) :: rest) = partOf S base (name,v) :: partsOf S base rest := rfl
    rcases prunedMembers_cons.mp pruned with ⟨idle,later⟩ | ⟨v',rest',rfl,under,later⟩
    · -- What is lost would have been passed over.
      rw [here,List.mapM_cons,keyword_idle (by exact idle),pure_bind,
        ← bind_pure ((partsOf S' base rest').mapM _)]
      exact (ih later others).bind fun found found' each => .ok each
    · rw [here,here,List.mapM_cons,List.mapM_cons]
      cases idle : isIdle name with
      | true =>
        rw [keyword_idle (by exact idle),keyword_idle (by exact idle),pure_bind,pure_bind]
        exact (ih later others).bind fun found found' each => .ok each
      | false =>
        refine (keyword_keepsUp members found (partOf_beside inner one under) idle).bind
          fun k k' same => (ih later others).bind fun found found' each => .ok ?_
        cases same with
        | none => exact each
        | some alike => exact .cons alike each

/-- The induction is on how deep schemas are; references lead anywhere, and are followed by other
means. -/
theorem ofJson_keepsUp (plain : S.formats = false ∧ S'.formats = false)
    (follows : ∀ base text, KeepsUp known Eq (S.follow base text) (S'.follow base text))
    (deep : Nat) : Inner known S S' deep := by
  induction deep with
  | zero => exact fun v _ lower => absurd lower (Nat.not_lt_zero _)
  | succ n inner =>
    intro v v' lower pruned base
    cases v with
    | bool b =>
      rw [(pruned_other rfl).mp pruned]
      cases b
      · exact .ok .nothing
      · exact .ok .everything
    | object ms =>
      obtain ⟨ms',rfl,members⟩ := pruned_object.mp pruned
      have less : Json.membersDepth ms < n := Nat.lt_of_succ_lt_succ lower
      obtain ⟨busy,flat⟩ := identity_busy "$ref" (by simp)
      unfold ofJson
      rcases optionRel_cases (members.data busy flat) with ⟨none,none'⟩ | ⟨w,w',one,one',alike⟩
      · rw [none,none',baseWithin_pruned members,plain.1,plain.2]
        refine .bind ((KeepsUp.congruent known).lift _) ?_
        rintro home _ rfl
        exact (keywords_keepsUp inner members (fun name busy => find?_beside inner less members busy)
          members less).bind fun found found' each => .ok (.keywords each)
      · rw [one,one']
        refine (alike.keepsUp (stringOf_alike (KeepsUp.congruent known)) fun _ => ⟨_,rfl⟩).bind ?_
        rintro text _ rfl
        refine (follows base text).bind ?_
        rintro i _ rfl
        exact .ok (.reference i)
    | _ => exact .refuse _ _

end

end ApiReview.Schema
