import Mathlib.Data.List.Basic
import ApiReview.Proofs.Distinct
import ApiReview.Proofs.Pointer

/-! What is dropped as a repetition. A finding stays if no equal one stands anywhere before it, and
findings are equal if they say the same of the same segments; that two places have one text does not
make them one. -/
namespace ApiReview
namespace Finding

theorem eq_iff {f g : Finding} : f = g ↔
    f.description = g.description ∧ f.pointer.segments = g.pointer.segments := by
  obtain ⟨_,⟨_⟩⟩ := f
  obtain ⟨_,⟨_⟩⟩ := g
  simp

theorem distinct_sublist (list : List Finding) : (distinct [] list).Sublist list := by
  rw [distinct_eq_filter]
  conv_rhs => rw [← List.zipIdx_map_fst 0 list]
  exact List.filter_sublist.map Prod.fst

/-- Of two lists, the second loses what it repeats of the first. -/
theorem distinct_append_filter (list more : List Finding) :
    distinct [] (list ++ more) = distinct [] list ++ (distinct [] more).filter (· ∉ list) := by
  rw [distinct_append,distinct_besides]

theorem distinct_eq_self_iff {list : List Finding} : distinct [] list = list ↔ list.Nodup := by
  constructor
  · intro same
    exact same ▸ distinct_nodup [] list
  · exact fun once => distinct_of_nodup once (by simp)

end Finding

namespace Pointer

/-- A position and the name that has its digits are written in the same way. -/
theorem text_key_digits (p : Pointer) (i : Nat) : (p.key (Decimal.text i)).text = (p.index i).text := by
  have plain (c : Char) (inside : c ∈ Decimal.digits i) : Segment.escapeChar c = [c] := by
    have tilde : c ≠ '~' := fun same => Segment.not_mem_digits (by decide) (same ▸ inside)
    have slash : c ≠ '/' := fun same => Segment.not_mem_digits (by decide) (same ▸ inside)
    rw [Segment.escapeChar,if_neg tilde,if_neg slash]
  have digits : (Segment.key (Decimal.text i)).chars = (Segment.index i).chars := by
    rw [Segment.chars,Segment.chars,Decimal.text,String.toList_ofList]
    exact (List.flatMap_congr plain).trans (List.flatMap_singleton' _)
  simp [text,chars,key,index,digits]

theorem key_ne_index (p : Pointer) (name : String) (i : Nat) : p.key name ≠ p.index i := by
  simp [key,index,join]

end Pointer

namespace Finding

/-- Of each list the findings that equal no earlier one stay, and nothing else: the same findings in
the same order, each once. A list that repeats nothing stays as it is, and a list behind another one
loses what stands in that one. Findings are told apart by what they say and by the segments of their
place, a position from the name that is written like it. -/
theorem distinct_firsts (list : List Finding) :
    distinct [] list = (list.zipIdx.filter fun (f,i) => f ∉ list.take i).map Prod.fst ∧
    (distinct [] list).Sublist list ∧ (distinct [] list).Nodup ∧
    (∀ f, f ∈ distinct [] list ↔ f ∈ list) ∧
    (distinct [] list = list ↔ list.Nodup) ∧
    (∀ more, distinct [] (list ++ more) =
      distinct [] list ++ (distinct [] more).filter (· ∉ list)) ∧
    (∀ f g : Finding, f = g ↔
      f.description = g.description ∧ f.pointer.segments = g.pointer.segments) ∧
    ∀ (description : String) (p : Pointer) (i : Nat),
      (p.key (Decimal.text i)).text = (p.index i).text ∧
      distinct [] [⟨description,p.key (Decimal.text i)⟩,⟨description,p.index i⟩] =
        [⟨description,p.key (Decimal.text i)⟩,⟨description,p.index i⟩] := by
  refine ⟨distinct_eq_filter [] list,distinct_sublist list,distinct_nodup [] list,?_,
    distinct_eq_self_iff,distinct_append_filter list,fun f g => eq_iff,?_⟩
  · intro f
    simp [mem_distinct]
  · intro description p i
    refine ⟨p.text_key_digits i,distinct_eq_self_iff.mpr ?_⟩
    simp [p.key_ne_index]

end Finding
end ApiReview
