import ApiReview.Lint.Report

/-! Findings without repetition. The first of equal findings stays in its place, so what stays is in
the order in which it came up first. -/
namespace ApiReview

/-- Where an item of a joined list comes from. -/
theorem split_flatMap {α β : Type} {f : α → List β} {list : List α} {before after : List β} {x : β}
    (same : list.flatMap f = before ++ x :: after) :
    ∃ left a right ahead behind, list = left ++ a :: right ∧ f a = ahead ++ x :: behind ∧
      before = left.flatMap f ++ ahead := by
  induction list generalizing before with
  | nil => simp at same
  | cons a rest ih =>
    rw [List.flatMap_cons] at same
    rcases List.append_eq_append_iff.mp same with ⟨more,split,tail⟩ | ⟨more,split,tail⟩
    · obtain ⟨left,b,right,ahead,behind,rfl,own,rfl⟩ := ih tail
      exact ⟨a :: left,b,right,ahead,behind,rfl,own,by simp [split]⟩
    · cases more with
      | nil =>
        have whole : rest.flatMap f = [] ++ x :: after := tail.symm
        obtain ⟨left,b,right,ahead,behind,rfl,own,empty⟩ := ih whole
        have here : before = f a := by rw [split,List.append_nil]
        exact ⟨a :: left,b,right,ahead,behind,rfl,own,
          by rw [List.flatMap_cons,List.append_assoc,← empty,List.append_nil,here]⟩
      | cons y more =>
        obtain ⟨rfl,rfl⟩ := List.cons.inj tail
        exact ⟨[],a,rest,before,more,rfl,split,by simp⟩

namespace Finding

theorem mem_distinct {seen list : List Finding} {f : Finding} :
    f ∈ distinct seen list ↔ f ∈ list ∧ f ∉ seen := by
  induction list generalizing seen with
  | nil => simp [distinct]
  | cons g rest ih =>
    rw [distinct]
    split
    · next old =>
      rw [ih,List.mem_cons]
      constructor
      · exact fun ⟨member,new⟩ => ⟨.inr member,new⟩
      · rintro ⟨rfl | member,new⟩
        · exact absurd old new
        · exact ⟨member,new⟩
    · next new =>
      rw [List.mem_cons,ih,List.mem_cons,List.mem_cons]
      by_cases same : f = g
      · subst same
        simp [new]
      · simp [same]

theorem distinct_nodup (seen list : List Finding) : (distinct seen list).Nodup := by
  induction list generalizing seen with
  | nil => exact .nil
  | cons g rest ih =>
    rw [distinct]
    split
    · exact ih seen
    · refine List.nodup_cons.mpr ⟨fun again => ?_,ih _⟩
      exact (mem_distinct.mp again).2 List.mem_cons_self

/-- Where nothing is repeated nothing is removed. -/
theorem distinct_of_nodup {seen list : List Finding} (once : list.Nodup)
    (new : ∀ f ∈ list, f ∉ seen) : distinct seen list = list := by
  induction list generalizing seen with
  | nil => rfl
  | cons g rest ih =>
    obtain ⟨absent,once⟩ := List.nodup_cons.mp once
    rw [distinct,if_neg (new g List.mem_cons_self),ih once]
    intro f member old
    rcases List.mem_cons.mp old with rfl | old
    · exact absent member
    · exact new f (List.mem_cons_of_mem _ member) old

/-- Of two findings that stay, the first came up before the second ever did. -/
theorem distinct_first_uses (seen list : List Finding) :
    (distinct seen list).Pairwise fun f g => f ≠ g ∧
      ∃ before after, list = before ++ f :: after ∧ f ∉ before ∧ g ∉ before := by
  induction list generalizing seen with
  | nil => exact .nil
  | cons h rest ih =>
    have later {seen' : List Finding} (old : h ∈ seen') :
        (distinct seen' rest).Pairwise fun f g => f ≠ g ∧
          ∃ before after, h :: rest = before ++ f :: after ∧ f ∉ before ∧ g ∉ before := by
      refine (ih seen').imp_of_mem ?_
      rintro f g left right ⟨apart,before,after,same,newLeft,newRight⟩
      have other {x : Finding} (member : x ∈ distinct seen' rest) : x ≠ h := by
        rintro rfl
        exact (mem_distinct.mp member).2 old
      exact ⟨apart,h :: before,after,by rw [same,List.cons_append],
        by simp [other left,newLeft],by simp [other right,newRight]⟩
    rw [distinct]
    split
    · next old => exact later old
    · refine List.pairwise_cons.mpr ⟨fun g member => ?_,later List.mem_cons_self⟩
      have apart : h ≠ g := by
        rintro rfl
        exact (mem_distinct.mp member).2 List.mem_cons_self
      exact ⟨apart,[],rest,rfl,by simp,by simp⟩

theorem distinct_congr {seen seen' : List Finding} (same : ∀ f, f ∈ seen ↔ f ∈ seen')
    (list : List Finding) : distinct seen list = distinct seen' list := by
  induction list generalizing seen seen' with
  | nil => rfl
  | cons g rest ih =>
    simp only [distinct,same]
    split
    · exact ih same
    · exact congrArg (g :: ·) (ih fun f => by simp [same])

/-- Behind findings that have been seen, those in the places before which no equal one stands. -/
theorem distinct_eq_filter (before list : List Finding) :
    distinct before list = ((list.zipIdx before.length).filter fun (f,i) =>
      f ∉ (before ++ list).take i).map Prod.fst := by
  induction list generalizing before with
  | nil => rfl
  | cons g rest ih =>
    have front : (before ++ g :: rest).take before.length = before := List.take_left
    have behind := ih (before ++ [g])
    rw [List.append_assoc,List.singleton_append,List.length_append,List.length_singleton] at behind
    rw [distinct,List.zipIdx_cons,List.filter_cons]
    by_cases old : g ∈ before
    · have same (f : Finding) : f ∈ before ++ [g] ↔ f ∈ before := by
        by_cases here : f = g <;> simp [here,old]
      rw [if_pos old,if_neg (by simp [front,old]),← behind,distinct_congr same]
    · have same (f : Finding) : f ∈ before ++ [g] ↔ f ∈ g :: before := by simp [or_comm]
      rw [if_neg old,if_pos (by simp [front,old]),List.map_cons,← behind,distinct_congr same]

theorem distinct_append (seen list more : List Finding) :
    distinct seen (list ++ more) = distinct seen list ++ distinct (list ++ seen) more := by
  induction list generalizing seen with
  | nil => rfl
  | cons g rest ih =>
    rw [List.cons_append,distinct,distinct]
    split
    · next old =>
      have same (f : Finding) : f ∈ rest ++ seen ↔ f ∈ g :: rest ++ seen := by
        by_cases here : f = g <;> simp [here,old]
      rw [ih,distinct_congr same]
    · have same (f : Finding) : f ∈ rest ++ g :: seen ↔ f ∈ g :: rest ++ seen := by
        simp [or_left_comm]
      rw [ih,distinct_congr same]
      rfl

/-- What has been seen besides is left out. -/
theorem distinct_besides (besides seen list : List Finding) :
    distinct (besides ++ seen) list = (distinct seen list).filter (· ∉ besides) := by
  induction list generalizing seen with
  | nil => rfl
  | cons g rest ih =>
    have both (f : Finding) : f ∈ g :: (besides ++ seen) ↔ f ∈ besides ++ g :: seen := by
      simp [or_left_comm]
    by_cases old : g ∈ seen
    · rw [distinct,distinct,if_pos old,if_pos (List.mem_append_right _ old),ih]
    · rw [distinct,distinct,if_neg old,List.filter_cons]
      by_cases known : g ∈ besides
      · have same (f : Finding) : f ∈ besides ++ seen ↔ f ∈ besides ++ g :: seen := by
          by_cases here : f = g <;> simp [here,known]
        rw [if_pos (List.mem_append_left _ known),distinct_congr same,ih]
        simp [known]
      · rw [if_neg (by simp [known,old]),distinct_congr both,ih]
        simp [known]

/-- Findings that are put between others change nothing if and only if they are the first new ones
there anyway. -/
theorem distinct_between_iff (before between after : List Finding) :
    distinct [] (before ++ (between ++ after)) = distinct [] (before ++ after) ↔
      distinct before between <+: distinct before after := by
  rw [distinct_append,distinct_append [] before after,List.append_nil,List.append_right_inj,
    distinct_append]
  constructor
  · exact fun same => ⟨_,same⟩
  · rintro ⟨rest,split⟩
    have apart := distinct_nodup before after
    rw [← split] at apart
    have left : (distinct before between).filter (· ∉ between) = [] :=
      List.filter_eq_nil_iff.mpr fun f member => by simp [(mem_distinct.mp member).1]
    have right : rest.filter (· ∉ between) = rest := by
      refine List.filter_eq_self.mpr fun f member => ?_
      have later : f ∈ distinct before after := split ▸ List.mem_append_right _ member
      have new : f ∉ distinct before between := fun first =>
        (List.nodup_append.mp apart).2.2 f first f member rfl
      simpa [mem_distinct,(mem_distinct.mp later).2] using new
    rw [distinct_besides,← split,List.filter_append,left,right,List.nil_append]

end Finding
end ApiReview
