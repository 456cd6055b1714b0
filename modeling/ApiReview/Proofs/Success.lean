/-! When a chain of steps that can fail comes to a result: every step of it does. Else it comes to the
error of one step, and all before that one have results. -/
namespace ApiReview.Success

variable {ε φ α β : Type}

theorem bind_iff {x : Except ε α} {f : α → Except ε β} {b : β} :
    (x >>= f) = .ok b ↔ ∃ a, x = .ok a ∧ f a = .ok b := by
  cases x with
  | error e => constructor <;> simp [bind,Except.bind]
  | ok a => constructor <;> simp [bind,Except.bind]

theorem bind_error_iff {x : Except ε α} {f : α → Except ε β} {e : ε} :
    (x >>= f) = .error e ↔ x = .error e ∨ ∃ a, x = .ok a ∧ f a = .error e := by
  cases x with
  | error e => simp [bind,Except.bind]
  | ok a => simp [bind,Except.bind]

theorem map_iff {x : Except ε α} {f : α → β} {b : β} :
    x.map f = .ok b ↔ ∃ a, x = .ok a ∧ f a = b := by
  cases x <;> simp [Except.map]

theorem mapError_iff {x : Except ε α} {f : ε → φ} {a : α} :
    x.mapError f = .ok a ↔ x = .ok a := by
  cases x with
  | error e => constructor <;> intro done <;> cases done
  | ok a => constructor <;> intro done <;> cases done <;> rfl

theorem mapError_error_iff {x : Except ε α} {f : ε → φ} {e' : φ} :
    x.mapError f = .error e' ↔ ∃ e, x = .error e ∧ f e = e' := by
  constructor
  · intro failed
    cases x with
    | error e => exact ⟨e,rfl,Except.error.inj failed⟩
    | ok a => cases failed
  · rintro ⟨e,rfl,rfl⟩
    rfl

theorem toOption_iff {x : Except ε α} {a : α} : x.toOption = some a ↔ x = .ok a := by
  cases x <;> simp [Except.toOption]

theorem mem_mapM {f : α → Except ε β} {list : List α} {found : List β}
    (done : list.mapM f = .ok found) {b : β} (member : b ∈ found) : ∃ a ∈ list, f a = .ok b := by
  induction list generalizing found with
  | nil =>
    cases done
    cases member
  | cons a rest ih =>
    rw [List.mapM_cons] at done
    obtain ⟨first,one,done⟩ := bind_iff.mp done
    obtain ⟨others,two,done⟩ := bind_iff.mp done
    cases done
    rcases List.mem_cons.mp member with rfl | later
    · exact ⟨a,List.mem_cons_self,one⟩
    · obtain ⟨c,inside,same⟩ := ih two later
      exact ⟨c,List.mem_cons_of_mem a inside,same⟩

theorem foldlM_invariant (I : β → Prop) {f : β → α → Except ε β}
    (step : ∀ b a c, I b → f b a = .ok c → I c) {list : List α} {b c : β} (first : I b)
    (done : list.foldlM f b = .ok c) : I c := by
  induction list generalizing b with
  | nil =>
    cases done
    exact first
  | cons a rest ih =>
    rw [List.foldlM_cons] at done
    obtain ⟨d,one,done⟩ := bind_iff.mp done
    exact ih (step b a d first one) done

end ApiReview.Success
