import ApiReview.Proofs.Orderless
import ApiReview.Proofs.Surveying

/-! Schemas without the identifier that they declare for themselves. What is left is in another order,
as the last member moves into each gap; that changes the order of what is found and nothing else, if
no identifier inside is declared for two different schemas. -/
namespace ApiReview.Schema

/-! Removal. -/

section
variable {α : Type}

/-- Moving the last element into a gap closes it but for the order. -/
theorem dropLast_set_perm {list : List α} {i : Nat} {last : α} (final : list.getLast? = some last)
    (inside : i < list.length) : (list.set i last).dropLast.Perm (list.eraseIdx i) := by
  obtain ⟨front,rfl⟩ := List.getLast?_eq_some_iff.mp final
  rw [List.length_append,List.length_singleton] at inside
  rcases Nat.lt_or_eq_of_le (Nat.le_of_lt_succ inside) with early | rfl
  · rw [List.set_append_left i last early,List.dropLast_concat,List.eraseIdx_append_of_lt_length early]
    exact (List.set_perm_cons_eraseIdx early last).trans (List.perm_append_singleton ..).symm
  · rw [List.set_append_right _ _ (Nat.le_refl _),Nat.sub_self,
      List.eraseIdx_append_of_length_le (Nat.le_refl _),Nat.sub_self]
    simp

end

section
variable {name : String} {ms : List (String × Json)}

theorem swapRemove_absent (absent : name ∉ ms.map Prod.fst) : swapRemove name ms = ms := by
  have none : ms.findIdx? (·.1 = name) = none := by
    refine List.findIdx?_eq_none_iff.mpr fun m listed => decide_eq_false ?_
    rintro rfl
    exact absent (List.mem_map_of_mem listed)
  rw [swapRemove,none]

theorem eraseP_distinct (distinct : (ms.map Prod.fst).Nodup) :
    ms.eraseP (·.1 = name) = ms.filter (·.1 ≠ name) := by
  induction ms with
  | nil => rfl
  | cons m rest ih =>
    obtain ⟨absent,distinct⟩ := List.nodup_cons.mp distinct
    by_cases same : m.1 = name
    · have others : ∀ m' ∈ rest, m'.1 ≠ name := by
        rintro m' listed rfl
        exact absent (same ▸ List.mem_map_of_mem listed)
      rw [List.eraseP_cons_of_pos (by simpa using same),List.filter_cons_of_neg (by simpa using same),
        List.filter_eq_self.mpr fun m' listed => decide_eq_true (others m' listed)]
    · rw [List.eraseP_cons_of_neg (by simpa using same),List.filter_cons_of_pos (by simpa using same),
        ih distinct]

theorem swapRemove_perm (name : String) (distinct : (ms.map Prod.fst).Nodup) :
    (swapRemove name ms).Perm (ms.filter (·.1 ≠ name)) := by
  rw [← eraseP_distinct distinct,List.eraseP_eq_eraseIdx]
  unfold swapRemove
  split
  · next none => rw [none]
  · next i found =>
    rw [found]
    have inside := (List.findIdx?_eq_some_iff_getElem.mp found).1
    split
    · next empty =>
      rw [List.getLast?_eq_none_iff.mp empty] at inside
      cases inside
    · next last final => exact dropLast_set_perm final inside

end

/-- The members of a schema as they stand, but for the identifier that it declares for itself. -/
def unnamed (ms : List (String × Json)) : List (String × Json) :=
  ms.filter fun m => m.1 ≠ "id" ∧ m.1 ≠ "$id"

section
variable {ms : List (String × Json)}

theorem unnamed_absent {name : String} (known : name = "id" ∨ name = "$id") :
    name ∉ (unnamed ms).map Prod.fst := by
  rintro listed
  obtain ⟨m,member,rfl⟩ := List.mem_map.mp listed
  have kept := (List.mem_filter.mp member).2
  simp only [decide_eq_true_eq] at kept
  exact known.elim kept.1 kept.2

/-- What is left after both removals is in another order than what stands without both. -/
theorem swapRemove_shuffles (distinct : (ms.map Prod.fst).Nodup) :
    Json.Shuffles (unnamed ms) (swapRemove "$id" (swapRemove "id" ms)) where
  perm := by
    have first := swapRemove_perm "id" distinct
    have distinct' : ((swapRemove "id" ms).map Prod.fst).Nodup :=
      (first.map Prod.fst).nodup_iff.mpr (distinct.sublist (List.filter_sublist.map _))
    have both := (swapRemove_perm "$id" distinct').trans (first.filter _)
    have same : (ms.filter (·.1 ≠ "id")).filter (·.1 ≠ "$id") = unnamed ms := by
      rw [List.filter_filter,unnamed]
      exact List.filter_congr fun m _ => by simp [and_comm]
    exact (same ▸ both).symm
  distinct := distinct.sublist (List.filter_sublist.map _)

end

/-! Validators of schemas in another order. -/

theorem Validator.build_inward_iff {schema : Json} (inward : Inward schema)
    (home : baseWithin defaultBase ((schema.members?).getD []) = .ok defaultBase)
    {retrieve : String → Except String Json} {v : Validator} : build retrieve schema = .ok v ↔
      ∃ found others root t, survey defaultBase schema = .ok found ∧
        surveyPointers defaultBase schema memoryLimit [] found.pointers = .ok others ∧
        check schema = .ok () ∧ readTable ((alone schema).add found) schema = .ok (root,t) ∧
        v = ⟨root,t.schemas⟩ := by
  rw [build,Success.bind_iff]
  constructor
  · rintro ⟨r,gathered,later⟩
    obtain ⟨found,others,one,two,rfl⟩ := (gatherFor_inward inward home).mp gathered
    obtain ⟨_,fine,done⟩ := Success.bind_iff.mp later
    obtain ⟨⟨root,t⟩,table,same⟩ := read_iff.mp done
    exact ⟨found,others,root,t,one,two,fine,table,same⟩
  · rintro ⟨found,others,root,t,one,two,fine,table,same⟩
    exact ⟨_,(gatherFor_inward inward home).mpr ⟨found,others,one,two,rfl⟩,
      Success.bind_iff.mpr ⟨(),fine,read_iff.mpr ⟨_,table,same⟩⟩⟩

section
variable {ms ms' : List (String × Json)} (shuffles : Json.Shuffles ms ms')
  (nameless : stringMember? "id" ms = none) (inward : Inward (.object ms))
  (single : Unambiguous (.object ms)) {retrieve : String → Except String Json} {v v' : Validator}

theorem baseWithin_nameless (nameless : stringMember? "id" ms = none) (base : Uri) :
    baseWithin base ms = .ok base := by
  have none : selfId? ms = none := by simp [selfId?,nameless]
  rw [baseWithin,none]
  rfl

include shuffles nameless inward single

/-- Their verdicts are the same, and their findings but for the order. -/
theorem Validator.build_shuffles_perm (built : build retrieve (.object ms) = .ok v)
    (built' : build retrieve (.object ms') = .ok v') (document : Json) :
    v'.accepts document = v.accepts document ∧
    (v'.findings document).Perm (v.findings document) := by
  have nameless' : stringMember? "id" ms' = none := (stringMember?_shuffles shuffles _).trans nameless
  obtain ⟨found,_,root,t,surveyed,_,_,table,rfl⟩ :=
    (build_inward_iff inward (baseWithin_nameless nameless _)).mp built
  obtain ⟨found',_,root',t',surveyed',_,_,table',rfl⟩ :=
    (build_inward_iff (inward.shuffled shuffles nameless) (baseWithin_nameless nameless' _)).mp built'
  obtain ⟨_,again,shuffled⟩ := survey_shuffles shuffles nameless found surveyed
  cases surveyed'.symm.trans again
  obtain ⟨documents,anchors⟩ := single found surveyed
  obtain ⟨documents',anchors'⟩ := single.shuffled shuffles nameless found' surveyed'
  obtain ⟨_,back,shuffled'⟩ := survey_shuffles shuffles.symm nameless' found' surveyed'
  cases surveyed.symm.trans back
  have there := reorders_shuffles shuffled documents anchors shuffles
  have perm := keys_perm there (reorders_shuffles shuffled' documents' anchors' shuffles.symm) table table'
  have reordered := Reordered.of_holds there perm (readTable_holds table) (readTable_holds table')
  exact reordered.accepts_findings_perm document

/-- If the one can be used, so can the other one. -/
theorem Validator.build_shuffles_ok (legible : Legible (.object ms))
    (built : build retrieve (.object ms) = .ok v) (fits : v.table.size < memoryLimit) :
    ∃ v', build retrieve (.object ms') = .ok v' := by
  have nameless' : stringMember? "id" ms' = none := (stringMember?_shuffles shuffles _).trans nameless
  obtain ⟨found,_,root,t,surveyed,_,fine,table,rfl⟩ :=
    (build_inward_iff inward (baseWithin_nameless nameless _)).mp built
  obtain ⟨found',surveyed',shuffled⟩ := survey_shuffles shuffles nameless found surveyed
  obtain ⟨others',pointed'⟩ := surveyPointers_legible (legible.shuffled shuffles nameless) memoryLimit []
    fun p member => Sought.here surveyed' member
  obtain ⟨documents,anchors⟩ := single found surveyed
  have there := reorders_shuffles shuffled documents anchors shuffles
  have size : t.keys.size = t.schemas.size := (readTable_holds table).size.symm
  obtain ⟨⟨root',t'⟩,table'⟩ := (there.inside table).2 (size ▸ fits)
  exact ⟨_,(build_inward_iff (inward.shuffled shuffles nameless)
    (baseWithin_nameless nameless' _)).mpr
    ⟨found',others',root',t',surveyed',pointed',check_shuffles shuffles fine,table',rfl⟩⟩

end

/-- Without the identifier that it declares for itself, a schema has all its other members, in some
order. If its references stay inside and no identifier is declared for two schemas, it comes to the
same as with the members left in their order, but for the order of the findings; and where what is
led to is legible and the table fits, the one can be used if the other one can. -/
theorem Validator.build_withoutSelfId {ms : List (String × Json)} (distinct : (ms.map Prod.fst).Nodup) :
    (∃ ms', withoutSelfId (.object ms) = .object ms' ∧ ms'.Perm (unnamed ms)) ∧
    withoutSelfId (withoutSelfId (.object ms)) = withoutSelfId (.object ms) ∧
    (Inward (.object (unnamed ms)) → Unambiguous (.object (unnamed ms)) →
      ∀ retrieve : String → Except String Json,
      (∀ v v', build retrieve (withoutSelfId (.object ms)) = .ok v →
        build retrieve (.object (unnamed ms)) = .ok v' → ∀ document,
        v.accepts document = v'.accepts document ∧
        (v.findings document).Perm (v'.findings document)) ∧
      (Legible (.object (unnamed ms)) →
        (∀ v, build retrieve (withoutSelfId (.object ms)) = .ok v → v.table.size < memoryLimit →
          ∃ v', build retrieve (.object (unnamed ms)) = .ok v') ∧
        (∀ v', build retrieve (.object (unnamed ms)) = .ok v' → v'.table.size < memoryLimit →
          ∃ v, build retrieve (withoutSelfId (.object ms)) = .ok v))) := by
  have shuffles := swapRemove_shuffles distinct
  have absent {name : String} (known : name = "id" ∨ name = "$id") :
      name ∉ (swapRemove "$id" (swapRemove "id" ms)).map Prod.fst :=
    mt (shuffles.perm.map Prod.fst).mem_iff.mpr (unnamed_absent known)
  have nameless : stringMember? "id" (unnamed ms) = none := by
    rw [stringMember?,Json.lookup_absent (unnamed_absent (.inl rfl))]
    rfl
  refine ⟨⟨_,rfl,shuffles.perm.symm⟩,?_,fun inward single retrieve => ⟨?_,fun legible => ⟨?_,?_⟩⟩⟩
  · rw [withoutSelfId,withoutSelfId,swapRemove_absent (absent (.inl rfl)),
      swapRemove_absent (absent (.inr rfl))]
  · exact fun v v' built built' => build_shuffles_perm shuffles nameless inward single built' built
  · have nameless' := (stringMember?_shuffles shuffles "id").trans nameless
    exact fun v built => build_shuffles_ok shuffles.symm nameless' (inward.shuffled shuffles nameless)
      (single.shuffled shuffles nameless) (legible.shuffled shuffles nameless) built
  · exact fun v' => build_shuffles_ok shuffles nameless inward single legible

/-! A schema that can be used either way, and one that declares an identifier more than once. -/

namespace Stripping

/-- A schema with two identifiers of its own, and a reference. -/
def own : List (String × Json) := [
  ("id",.string "http://example.com/own"),
  ("type",.string "object"),
  ("$id",.string "http://example.com/other"),
  ("properties",.object [("a",.object [("$ref",.string "#/definitions/t")])]),
  ("definitions",.object [("t",.object [("type",.string "string")])])]

theorem own_computed : (own.map Prod.fst).Nodup ∧ stands (.object (unnamed own)) = true ∧
    (Validator.build Bundled.retrieve (withoutSelfId (.object own))).toOption.any
      (·.table.size < memoryLimit) = true ∧
    (Validator.build Bundled.retrieve (.object (unnamed own))).toOption.any
      (·.table.size < memoryLimit) = true := by
  decide +kernel

/-- A schema that declares an identifier and refers to a part of itself that has a type. -/
def part (type : String) : Json := .object [
  ("id",.string "http://example.com/x"),
  ("definitions",.object [("t",.object [("type",.string type)])]),
  ("allOf",.array [.object [("$ref",.string "#/definitions/t")]])]

/-- Two schemas declare one identifier, under the keywords of the schema and deeper. Which one is
known by it depends on which keyword stands first. -/
def twice : List (String × Json) := [
  ("id",.string "http://example.com/self"),
  ("allOf",.array [part "string",.object [("definitions",.object [("q",part "integer")])]]),
  ("definitions",.object [
    ("p",part "integer"),
    ("q",.object [("definitions",.object [("r",part "string")])])])]

theorem twice_computed : (twice.map Prod.fst).Nodup ∧
    nearWithin 9 (.object (unnamed twice)) = true ∧
    closes defaultBase (.object (unnamed twice)) ["/definitions/t"] = true ∧
    (follow "/definitions/t" defaultBase (.object (unnamed twice))).toOption.isNone = true ∧
    (Validator.build Bundled.retrieve (.object twice)).toOption.isSome = true ∧
    (Validator.build Bundled.retrieve (withoutSelfId (.object twice))).toOption.any
      (·.accepts (.int 1)) = true ∧
    (Validator.build Bundled.retrieve (.object (unnamed twice))).toOption.any
      (!·.accepts (.int 1)) = true := by
  decide +kernel

end Stripping

/-- The schema with two identifiers loses both, can be used, and decides as it does in place. -/
theorem Validator.build_withoutSelfId_own : ∃ ms' v v', (Stripping.own.map Prod.fst).Nodup ∧
    withoutSelfId (.object Stripping.own) = .object ms' ∧ ms'.Perm (unnamed Stripping.own) ∧
    withoutSelfId (.object ms') = .object ms' ∧
    Inward (.object (unnamed Stripping.own)) ∧ Unambiguous (.object (unnamed Stripping.own)) ∧
    Legible (.object (unnamed Stripping.own)) ∧
    build Bundled.retrieve (.object ms') = .ok v ∧ v.table.size < memoryLimit ∧
    build Bundled.retrieve (.object (unnamed Stripping.own)) = .ok v' ∧
    v'.table.size < memoryLimit ∧ ∀ document, v.accepts document = v'.accepts document ∧
      (v.findings document).Perm (v'.findings document) := by
  obtain ⟨distinct,holds,one,two⟩ := Stripping.own_computed
  obtain ⟨v,found,fits⟩ := (Option.any_eq_true _ _).mp one
  have built := Success.toOption_iff.mp found
  have inward := inward_of_stands holds
  have single := unambiguous_of_stands holds
  have legible := legible_of_stands holds
  obtain ⟨⟨ms',stripped,perm⟩,again,same⟩ := Validator.build_withoutSelfId distinct
  obtain ⟨come,comes⟩ := same inward single Bundled.retrieve
  obtain ⟨v',built'⟩ := (comes legible).1 v built (of_decide_eq_true fits)
  rw [Success.toOption_iff.mpr built'] at two
  refine ⟨ms',v,v',distinct,stripped,perm,?_,inward,single,legible,stripped ▸ built,
    of_decide_eq_true fits,built',of_decide_eq_true two,come v v' built built'⟩
  rw [← stripped,again]

/-- References stay inside, and all three schemas can be used. A number is accepted without the
identifier, and refused where the other members are left in their order. -/
theorem Validator.build_withoutSelfId_twice : ∃ u v v', (Stripping.twice.map Prod.fst).Nodup ∧
    Inward (.object (unnamed Stripping.twice)) ∧
    build Bundled.retrieve (.object Stripping.twice) = .ok u ∧
    build Bundled.retrieve (withoutSelfId (.object Stripping.twice)) = .ok v ∧
    build Bundled.retrieve (.object (unnamed Stripping.twice)) = .ok v' ∧
    v.accepts (.int 1) = true ∧ v'.accepts (.int 1) = false := by
  obtain ⟨distinct,near,closed,astray,before,one,two⟩ := Stripping.twice_computed
  obtain ⟨u,used⟩ := Option.isSome_iff_exists.mp before
  obtain ⟨v,built,accepted⟩ := (Option.any_eq_true _ _).mp one
  obtain ⟨v',built',refused⟩ := (Option.any_eq_true _ _).mp two
  refine ⟨u,v,v',distinct,⟨near_of_within near,fun p sought here w led => ?_⟩,
    Success.toOption_iff.mp used,Success.toOption_iff.mp built,Success.toOption_iff.mp built',accepted,
    by simpa using refused⟩
  -- The reference leads nowhere from the schema itself, only from what declares the identifier.
  obtain rfl := List.mem_singleton.mp (sought.mem closed)
  rw [led] at astray
  cases astray

end ApiReview.Schema
