import ApiReview.Remote.Cache
import ApiReview.Proofs.Bundled

/-! Calls on a cache, one after the other. What a call does depends on the validators that are held,
and not on the attempts that have failed: an error is shared with calls that wait, and none does. -/
namespace ApiReview.Remote.Cache

/-- The validator that is held for a key. -/
def held (c : Cache) (key : Key) : Option Numbered := (c.slot key).validator

/-- The same validators are held, whatever has failed. -/
structure Same (c c' : Cache) : Prop where
  validators : c'.validators = c.validators
  held : ∀ key, c'.held key = c.held key

/-- A validator was built for a key and is held now. -/
structure Built (c : Cache) (key : Key) (v : Schema.Validator) (c' : Cache) : Prop where
  validators : c'.validators = c.validators.push v
  held : ∀ other, c'.held other =
    if other = key then some (c.validators.size,v) else c.held other

section
variable {c c' d : Cache} {key : Key} {v : Schema.Validator}

theorem Same.refl (c : Cache) : Same c c := ⟨rfl,fun _ => rfl⟩

theorem Same.symm (same : Same c c') : Same c' c :=
  ⟨same.validators.symm,fun key => (same.held key).symm⟩

theorem Same.trans (first : Same c c') (second : Same c' d) : Same c d :=
  ⟨second.validators.trans first.validators,fun key => (second.held key).trans (first.held key)⟩

/-- What is built for a key does not depend on what has failed. -/
theorem Built.same {d' : Cache} (same : Same c c') (one : Built c key v d) (two : Built c' key v d') :
    Same d d' := by
  refine ⟨by rw [one.validators,two.validators,same.validators],fun other => ?_⟩
  rw [one.held,two.held,same.validators,same.held]

@[simp] theorem held_empty (key : Key) : empty.held key = none := rfl

theorem lookup_filter_ne {other : Key} (apart : other ≠ key) (slots : List (Key × Slot)) :
    (slots.filter (·.1 ≠ key)).lookup other = slots.lookup other := by
  induction slots with
  | nil => rfl
  | cons entry rest ih =>
    obtain ⟨k,s⟩ := entry
    by_cases own : k = key
    · subst own
      have miss : (other == k) = false := by simpa using apart
      simp only [List.filter_cons,List.lookup_cons,miss,ne_eq,not_true,decide_false]
      exact ih
    · have kept : decide (k ≠ key) = true := by simpa using own
      simp only [List.filter_cons,kept,if_true,List.lookup_cons,ih]

theorem slot_setSlot (c : Cache) (key other : Key) (s : Slot) :
    (c.setSlot key s).slot other = if other = key then s else c.slot other := by
  by_cases own : other = key
  · simp [slot,setSlot,own]
  · have miss : (other == key) = false := by simpa using own
    simp only [slot,setSlot,List.lookup_cons,miss,own,if_false,lookup_filter_ne own]

/-- A slot that is asked for is empty at first, as it is before. -/
theorem slot_enter (c : Cache) (key other : Key) : (c.enter key).slot other = c.slot other := by
  unfold enter
  split
  · rfl
  · next absent =>
    rw [slot_setSlot]
    split
    · next own =>
      simp only [Bool.not_eq_true,Option.isSome_eq_false_iff,Option.isNone_iff_eq_none] at absent
      simp [slot,own,absent]
    · rfl

theorem validators_enter (c : Cache) (key : Key) : (c.enter key).validators = c.validators := by
  unfold enter
  split <;> rfl

theorem enter_same (c : Cache) (key : Key) : Same c (c.enter key) :=
  ⟨validators_enter c key,fun other => congrArg Slot.validator (slot_enter c key other)⟩

end

section
variable {ε : Type} {c : Cache} {key : Key} (shown : ε → String)

theorem obtain_kept {found : Numbered} (has : c.held key = some found)
    (build : Except ε Schema.Validator) :
    ∃ c', c.obtain key shown build = (c',.kept found) ∧ Same c c' := by
  refine ⟨c.enter key,?_,enter_same c key⟩
  rw [held] at has
  simp only [obtain,arrive,proceed,slot_enter,has]

/-- Between its arrival and its turn no attempt has failed, so that the call tries itself. -/
theorem obtain_built (lacks : c.held key = none) (v : Schema.Validator) :
    ∃ c', c.obtain key shown (.ok v) = (c',.built (c.validators.size,v)) ∧ Built c key v c' := by
  rw [held] at lacks
  refine ⟨({ c.enter key with validators := c.validators.push v } : Cache).setSlot key
    { c.slot key with validator := some (c.validators.size,v), lastError := none },?_,?_⟩
  · simp only [obtain,arrive,proceed,slot_enter,lacks,if_true,validators_enter]
  · refine ⟨rfl,fun other => ?_⟩
    rw [held,slot_setSlot]
    split
    · rfl
    · exact congrArg Slot.validator (slot_enter c key other)

theorem obtain_failed (lacks : c.held key = none) (e : ε) :
    ∃ c', c.obtain key shown (.error e) = (c',.failed e) ∧ Same c c' := by
  rw [held] at lacks
  refine ⟨(c.enter key).setSlot key { c.slot key with
    failures := (c.slot key).failures + 1, lastError := some (shown e) },?_,?_⟩
  · simp only [obtain,arrive,proceed,slot_enter,lacks,if_true]
  · refine ⟨validators_enter c key,fun other => ?_⟩
    rw [held,slot_setSlot]
    split
    · next own => rw [held,own,lacks]
    · exact congrArg Slot.validator (slot_enter c key other)

end

/-- What is held for a dialect is its bundled validator. -/
def Sound (c : Cache) : Prop :=
  ∀ d found, c.held (.bundled d) = some found → Bundled.validator d = .ok found.2

section
variable {c : Cache} {d : Dialect}

/-- The bundled schema of a dialect is had in any case. It is built at most once. -/
theorem bundled_cases (c : Cache) (d : Dialect) :
    (∃ found c', c.held (.bundled d) = some found ∧ c.bundled d = (c',.ok found) ∧ Same c c') ∨
    ∃ v c', c.held (.bundled d) = none ∧ Bundled.validator d = .ok v ∧
      c.bundled d = (c',.ok (c.validators.size,v)) ∧ Built c (.bundled d) v c' := by
  cases has : c.held (.bundled d) with
  | some found =>
    obtain ⟨c',done,same⟩ := obtain_kept Schema.Error.message has (Bundled.validator d)
    exact .inl ⟨found,c',rfl,by simp only [bundled,done,Turn.result],same⟩
  | none =>
    obtain ⟨v,built,_⟩ := Bundled.validator_forces d
    obtain ⟨c',done,built'⟩ := obtain_built Schema.Error.message has v
    exact .inr ⟨v,c',rfl,built,by simp only [bundled,built,done,Turn.result],built'⟩

variable {server : Server} {url : String}

theorem load_kept {found : Numbered} (has : c.held (.remote d url) = some found)
    (server : Server) : ∃ c',
      c.load server d url = (c',.ok ⟨found.1,found.2,.remote url,false⟩) ∧ Same c c' := by
  obtain ⟨c',done,same⟩ := obtain_kept Failure.message has (download server url)
  exact ⟨c',by simp only [load,done,Turn.result,Turn.attempted],same⟩

theorem load_built (lacks : c.held (.remote d url) = none) {v : Schema.Validator}
    (had : download server url = .ok v) : ∃ c',
      c.load server d url = (c',.ok ⟨c.validators.size,v,.remote url,true⟩) ∧
        Built c (.remote d url) v c' := by
  obtain ⟨c',done,built⟩ := obtain_built Failure.message lacks v
  exact ⟨c',by simp only [load,had,done,Turn.result,Turn.attempted],built⟩

theorem load_failed (lacks : c.held (.remote d url) = none) {reason : Failure}
    (failed : download server url = .error reason) : ∃ c₁, Same c c₁ ∧
      c.load server d url = ((c₁.bundled d).1,(c₁.bundled d).2.map fun found =>
        ⟨found.1,found.2,.bundled reason,true⟩) := by
  obtain ⟨c₁,done,same⟩ := obtain_failed Failure.message lacks reason
  exact ⟨c₁,same,by simp only [load,failed,done,Turn.result,Turn.attempted]⟩

end

end ApiReview.Remote.Cache
