import ApiReview.Proofs.Meaning

/-! Questions that come to an end. The ones on parts of a value do so as the value does, so that
only those on the same value need to be looked at. -/
namespace ApiReview.Meaning
open Schema

section
variable {ms : List (String × Json)} {name : String} {given value : Json}

/-- What is given for a keyword, or what stands in it. -/
def Within (s given : Json) : Prop := s = given ∨ s.Child given

theorem Within.depth_lt {s : Json} {m : String × Json} (within : Within s m.2)
    (member : m ∈ ms) : s.depth < (Json.object ms).depth := by
  have given := (Json.child_of_member member).depth_lt
  rcases within with rfl | child
  · exact given
  · exact Nat.lt_trans child.depth_lt given

theorem applied_within {s : Json} (member : s ∈ applied name given value) : Within s given := by
  unfold applied at member
  split at member
  case h_4 => exact .inl (List.mem_singleton.mp member)
  case h_5 =>
    obtain ⟨m,listed,rfl⟩ := List.mem_map.mp member
    exact .inr (.inr ⟨m,(List.mem_filter.mp listed).1,rfl⟩)
  case h_6 => cases member
  all_goals exact .inr (.inl member)

theorem child_of_get? {v : Json} (found : value.get? name = some v) : v.Child value := by
  obtain ⟨fs,rfl,found⟩ := Json.get?_eq_some_iff.mp found
  exact Json.child_of_lookup found

theorem below_within {p : Json × Json} (member : p ∈ below ms name given value) :
    Within p.1 given ∧ p.2.Child value := by
  have whole {list : List Json} (inside : ∀ v ∈ list, v ∈ value.elements)
      (member : p ∈ list.map (given,·)) : Within p.1 given ∧ p.2.Child value := by
    obtain ⟨v,listed,rfl⟩ := List.mem_map.mp member
    exact ⟨.inl rfl,.inl (inside v listed)⟩
  unfold below at member
  split at member
  · obtain ⟨m,listed,same⟩ := List.mem_filterMap.mp member
    obtain ⟨v,found,rfl⟩ := Option.map_eq_some_iff.mp same
    exact ⟨.inr (.inr ⟨m,listed,rfl⟩),child_of_get? found⟩
  · obtain ⟨m,listed,same⟩ := List.mem_flatMap.mp member
    obtain ⟨n,found,rfl⟩ := List.mem_map.mp same
    exact ⟨.inr (.inr ⟨m,listed,rfl⟩),.inr ⟨n,(List.mem_filter.mp found).1,rfl⟩⟩
  · split at member
    · obtain ⟨n,found,rfl⟩ := List.mem_map.mp member
      exact ⟨.inl rfl,.inr ⟨n,(List.mem_filter.mp found).1,rfl⟩⟩
    · cases member
  · split at member
    · obtain ⟨one,two⟩ := List.of_mem_zip member
      exact ⟨.inr (.inl one),.inl two⟩
    · exact whole (fun _ listed => listed) member
  · split at member
    · split at member
      · exact whole (fun _ listed => List.mem_of_mem_drop listed) member
      · cases member
    · cases member
  · cases member

end

namespace Question
variable {r : Resources} {q q' : Question}

theorem stays_value (rest : q' ∈ q.stays r) : q'.value = q.value := by
  unfold stays at rest
  split at rest
  · split at rest
    · obtain ⟨t,_,rfl⟩ := List.mem_map.mp rest
      rfl
    · obtain ⟨inner,_,rest⟩ := List.mem_flatMap.mp rest
      obtain ⟨s,_,rfl⟩ := List.mem_map.mp rest
      rfl
  · cases rest

theorem descends_value (rest : q' ∈ q.descends) : q'.value.Child q.value := by
  unfold descends at rest
  split at rest
  · split at rest
    · cases rest
    · obtain ⟨inner,_,rest⟩ := List.mem_flatMap.mp rest
      obtain ⟨p,inside,rfl⟩ := List.mem_map.mp rest
      obtain ⟨m,_,inside⟩ := List.mem_flatMap.mp inside
      exact (below_within inside).2
  · cases rest

variable {P : Json → Prop}

theorem rests_value (passes : Json.Hereditary P) (holds : P q.value) (rest : q' ∈ q.rests r) :
    P q'.value := by
  rcases List.mem_append.mp rest with stay | descend
  · exact stays_value stay ▸ holds
  · exact passes _ _ (descends_value descend) holds

theorem rests_schema (passes : Json.Hereditary P) (all : r.All P) (holds : P q.schema)
    (rest : q' ∈ q.rests r) : P q'.schema := by
  obtain ⟨base,schema,value⟩ := q
  have inside {ms : List (String × Json)} {m : String × Json} {s : Json} (member : m ∈ ms)
      (within : Within s m.2) (holds : P (.object ms)) : P s := by
    have given := passes.members holds m member
    exact within.elim (fun same => same ▸ given) fun child => passes _ _ child given
  cases schema with
  | object ms =>
    cases plain : Json.lookup "$ref" ms with
    | some ref =>
      simp only [rests,stays,descends,plain,List.append_nil,List.mem_map,Option.mem_toList] at rest
      obtain ⟨t,found,rfl⟩ := rest
      unfold referred? at found
      split at found
      · obtain ⟨uri,_,led⟩ := Success.bind_iff.mp (Success.toOption_iff.mp found)
        exact all.target passes led
      · cases found
    | none =>
      cases home : baseWithin base ms with
      | error e => simp [rests,stays,descends,plain,home,Except.toOption] at rest
      | ok inner =>
        rcases List.mem_append.mp rest with stay | descend
        · obtain ⟨m,member,s,applied,rfl⟩ := (mem_stays plain home).mp stay
          exact inside member (applied_within applied) holds
        · obtain ⟨m,member,p,below,rfl⟩ := (mem_descends plain home).mp descend
          exact inside member (below_within below).1 holds
  | _ => simp [rests,stays,descends] at rest

end Question

variable {r : Resources} {q : Question}

theorem Reaches.all {P : Json → Prop} (passes : Json.Hereditary P) (all : r.All P)
    (schema : P q.schema) (value : P q.value) {q' : Question} (reaches : Reaches r q q') :
    P q'.schema ∧ P q'.value := by
  induction reaches with
  | refl => exact ⟨schema,value⟩
  | tail _ rest ih => exact ⟨Question.rests_schema passes all ih.1 rest,
      Question.rests_value passes ih.2 rest⟩

/-- Questions that come up are on the same value, or on one that is less deep. -/
theorem Further.value {q' : Question} (further : Further r q q') :
    q'.value = q.value ∨ q'.value.depth < q.value.depth := by
  have step {a b : Question} (rest : b ∈ a.rests r) :
      b.value = a.value ∨ b.value.depth < a.value.depth :=
    (List.mem_append.mp rest).imp Question.stays_value
      fun descend => (Question.descends_value descend).depth_lt
  induction further with
  | single rest => exact step rest
  | tail _ rest ih =>
    rcases step rest with same | lower
    · exact same ▸ ih
    · rcases ih with same | before
      · exact .inr (same ▸ lower)
      · exact .inr (Nat.lt_trans lower before)

/-- Questions that come to an end do not go round in a circle. -/
theorem Ends.not_circle (ends : Ends r q) : ¬ Further r q q := by
  replace ends := ends.transGen
  induction ends with
  | intro q _ ih => exact fun circle => ih q (Relation.transGen_swap.mpr circle) circle

/-- Where there is no chain without end on one value, questions come to an end. The first induction
is on the depth of the value, the second one on the questions on the same value. -/
theorem Grounded.ends (grounded : Grounded r q) : Ends r q := by
  have stay (q' : Question) (reaches : Reaches r q q') : Acc (fun b a => b ∈ a.stays r) q' := by
    by_contra endless
    exact grounded q' reaches (not_acc_iff_exists_descending_chain.mp endless)
  have deep (n : Nat) : ∀ q', Reaches r q q' → q'.value.depth = n → Ends r q' := by
    induction n using Nat.strongRecOn with
    | ind n lower =>
      intro q' reaches depth
      induction stay q' reaches with
      | intro q' _ ih =>
        refine .intro q' fun q'' rest => ?_
        have further := reaches.tail rest
        rcases List.mem_append.mp rest with stay | descend
        · exact ih q'' stay further ((congrArg Json.depth (Question.stays_value stay)).trans depth)
        · exact lower _ (depth ▸ (Question.descends_value descend).depth_lt) q'' further rfl
  exact deep _ q .refl rfl

/-- Whether the questions that one rests on, and those that they rest on, come to an end within a
number of steps. -/
def exhausts (r : Resources) : Nat → Question → Bool
  | 0, _ => false
  | n + 1, q => (q.rests r).all (exhausts r n)

theorem Ends.of_exhausts {n : Nat} (done : exhausts r n q = true) : Ends r q := by
  induction n generalizing q with
  | zero => cases done
  | succ n ih => exact .intro q fun q' rest => ih (List.all_eq_true.mp done q' rest)

end ApiReview.Meaning
