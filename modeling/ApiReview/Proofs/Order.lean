import ApiReview.Proofs.Pointer

/-! Document order. Of two places the first is the one whose branch is listed first where they
part, so a place is never before itself or before one that it leads to. -/
namespace ApiReview

/-- Which of two steps from a node is listed first. -/
def Segment.Before (node : Json) : Segment → Segment → Prop
  | .key a, .key b => ∃ ms, node = .object ms ∧ [a,b].Sublist (ms.map Prod.fst)
  | .index i, .index j => i < j
  | _, _ => False

/-- Two elements of a list without repetitions stand in one order only. -/
theorem sublist_asymm {α : Type} {list : List α} (once : list.Nodup) {a b : α}
    (before : [a,b].Sublist list) : ¬ [b,a].Sublist list := by
  induction list with
  | nil => cases before
  | cons x rest ih =>
    obtain ⟨absent,once⟩ := List.nodup_cons.mp once
    have second {c d : α} (listed : [c,d].Sublist (x :: rest)) : d ∈ rest := by
      cases listed with
      | cons _ inside => exact inside.subset (by simp)
      | cons_cons _ inside => exact inside.subset (by simp)
    intro after
    have left := second before
    have right := second after
    cases before with
    | cons _ before =>
      cases after with
      | cons _ after => exact ih once before after
      | cons_cons => exact absent left
    | cons_cons => exact absent right

theorem Segment.Before.asymm {node : Json} (distinct : node.Distinct) {s t : Segment}
    (before : s.Before node t) : ¬ t.Before node s := by
  cases s with
  | key a =>
    cases t with
    | key b =>
      obtain ⟨ms,rfl,listed⟩ := before
      rintro ⟨_,⟨⟩,reversed⟩
      exact sublist_asymm distinct.1 listed reversed
    | index j => cases before
  | index i =>
    cases t with
    | key b => cases before
    | index j => exact Nat.lt_asymm before

theorem Segment.Before.irrefl {node : Json} (distinct : node.Distinct) (s : Segment) :
    ¬ s.Before node s :=
  fun before => before.asymm distinct before

namespace Pointer

/-- One pointer leads into or to where another one leads. -/
def Within (inner outer : Pointer) : Prop := outer.segments <+: inner.segments

theorem Within.refl (p : Pointer) : p.Within p := List.prefix_rfl

theorem Within.join {p q : Pointer} (inside : p.Within q) (s : Segment) : (p.join s).Within q :=
  inside.trans (List.prefix_append _ _)

theorem Within.key {p q : Pointer} (inside : p.Within q) (name : String) : (p.key name).Within q :=
  inside.join _

theorem Within.above {p q : Pointer} {s : Segment} (inside : p.Within (q.join s)) : p.Within q :=
  (List.prefix_append _ _).trans inside

/-- Document order: the pointers part at a node, where the first takes the earlier branch. -/
def Precedes (root : Json) (p q : Pointer) : Prop :=
  ∃ (base : Pointer) (node : Json) (s t : Segment), base.resolve? root = some node ∧
    s.Before node t ∧ p.Within (base.join s) ∧ q.Within (base.join t)

theorem Precedes.within {root : Json} {p q p' q' : Pointer} (first : Precedes root p q)
    (left : p'.Within p) (right : q'.Within q) : Precedes root p' q' := by
  obtain ⟨base,node,s,t,found,before,inLeft,inRight⟩ := first
  exact ⟨base,node,s,t,found,before,inLeft.trans left,inRight.trans right⟩

theorem Within.of_longer {p base base' : Pointer} {s : Segment} (inner : p.Within base')
    (outer : p.Within (base.join s)) (longer : base.segments.length < base'.segments.length) :
    base'.Within (base.join s) := by
  apply List.prefix_of_prefix_length_le outer inner
  simp only [segments_join,List.length_append,List.length_singleton]
  omega

theorem join_eq_of_within {p base base' : Pointer} {s t : Segment} (left : p.Within (base.join s))
    (right : p.Within (base'.join t)) (long : base.segments.length = base'.segments.length) :
    base = base' ∧ s = t := by
  have same : base.segments ++ [s] = base'.segments ++ [t] := by
    apply (List.prefix_of_prefix_length_le left right (by simp [long])).eq_of_length
    simp [long]
  obtain ⟨bases,steps⟩ := List.append_inj same long
  exact ⟨by cases base; cases base'; exact congrArg Pointer.mk bases,by simpa using steps⟩

/-- Where two places part there is one node, and it lists one of the branches first. -/
theorem Precedes.asymm {root : Json} (distinct : root.Distinct) {p q : Pointer}
    (first : Precedes root p q) : ¬ Precedes root q p := by
  rintro ⟨base',node',t',s',found',before',right',left'⟩
  obtain ⟨base,node,s,t,found,before,left,right⟩ := first
  rcases Nat.lt_trichotomy base.segments.length base'.segments.length with less | same | more
  · have inS := Within.of_longer left'.above left less
    have inT := Within.of_longer right'.above right less
    obtain ⟨_,rfl⟩ := join_eq_of_within inS inT rfl
    exact before.irrefl (distinct.walk (walk_iff.mp found)) s
  · obtain ⟨rfl,rfl⟩ := join_eq_of_within left left' same
    obtain ⟨_,rfl⟩ := join_eq_of_within right right' rfl
    obtain rfl : node = node' := by simpa [found] using found'
    exact before.asymm (distinct.walk (walk_iff.mp found)) before'
  · have inS := Within.of_longer left.above left' more
    have inT := Within.of_longer right.above right' more
    obtain ⟨_,rfl⟩ := join_eq_of_within inS inT rfl
    exact before'.irrefl (distinct.walk (walk_iff.mp found')) _

theorem Precedes.irrefl {root : Json} (distinct : root.Distinct) (p : Pointer) :
    ¬ Precedes root p p :=
  fun first => first.asymm distinct first

theorem precedes_key {root : Json} {base : Pointer} {ms : List (String × Json)}
    (found : base.resolve? root = some (.object ms)) {a b : String}
    (listed : [a,b].Sublist (ms.map Prod.fst)) : Precedes root (base.key a) (base.key b) :=
  ⟨base,_,.key a,.key b,found,⟨ms,rfl,listed⟩,.refl _,.refl _⟩

theorem precedes_index {root node : Json} {base : Pointer} (found : base.resolve? root = some node)
    {i j : Nat} (less : i < j) : Precedes root (base.index i) (base.index j) :=
  ⟨base,node,.index i,.index j,found,less,.refl _,.refl _⟩

theorem members_ordered {root : Json} {base : Pointer} {ms : List (String × Json)}
    (found : base.resolve? root = some (.object ms)) :
    ms.Pairwise fun m n => Precedes root (base.key m.1) (base.key n.1) :=
  List.pairwise_iff_forall_sublist.mpr fun {_ _} listed =>
    precedes_key found (listed.map Prod.fst)

/-- Lists in document order are joined in document order when each is of places inside its own. -/
theorem ordered_flatMap {α β : Type} {root : Json} {place : α → Pointer} {inner : β → Pointer}
    {list : List α} {f : α → List β}
    (ordered : list.Pairwise fun a b => Precedes root (place a) (place b))
    (lists : ∀ a ∈ list, (f a).Pairwise fun c d => Precedes root (inner c) (inner d))
    (inside : ∀ a ∈ list, ∀ c ∈ f a, (inner c).Within (place a)) :
    (list.flatMap f).Pairwise fun c d => Precedes root (inner c) (inner d) := by
  apply List.pairwise_flatMap.mpr ⟨lists,ordered.imp_of_mem _⟩
  intro a b left right first c inLeft d inRight
  exact first.within (inside a left c inLeft) (inside b right d inRight)

/-- What is listed in document order is listed once. -/
theorem nodup_of_ordered {root : Json} (distinct : root.Distinct) {ps : List Pointer}
    (ordered : ps.Pairwise (Precedes root)) : ps.Nodup := by
  refine ordered.imp ?_
  rintro p _ first rfl
  exact Precedes.irrefl distinct p first

end Pointer
end ApiReview
