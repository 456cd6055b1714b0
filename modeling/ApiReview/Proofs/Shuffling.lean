import ApiReview.Proofs.Inward
import ApiReview.Proofs.Reordering

/-! Schemas whose own members stand in another order. Nothing but the order of what is found changes, in
reading them as in gathering for them, if no identifier is declared for two different schemas. -/
namespace ApiReview

/-- The same members in another order, each name once. -/
structure Json.Shuffles (ms ms' : List (String × Json)) : Prop where
  perm : ms.Perm ms'
  distinct : (ms.map Prod.fst).Nodup

namespace Json.Shuffles
variable {ms ms' : List (String × Json)} (shuffles : Shuffles ms ms')
include shuffles

theorem symm : Shuffles ms' ms where
  perm := shuffles.perm.symm
  distinct := (shuffles.perm.map Prod.fst).nodup_iff.mp shuffles.distinct

theorem lookup (name : String) : Json.lookup name ms' = Json.lookup name ms := by
  refine Option.ext fun v => ?_
  rw [lookup_eq_some_iff shuffles.symm.distinct,lookup_eq_some_iff shuffles.distinct]
  exact shuffles.perm.mem_iff.symm

end Json.Shuffles

namespace Schema

section
variable {ms ms' : List (String × Json)} (shuffles : Json.Shuffles ms ms')
include shuffles

theorem stringMember?_shuffles (name : String) : stringMember? name ms' = stringMember? name ms := by
  rw [stringMember?,stringMember?,shuffles.lookup]

theorem selfId?_shuffles : selfId? ms' = selfId? ms := by
  rw [selfId?,selfId?,shuffles.lookup,stringMember?_shuffles shuffles]

theorem anchor?_shuffles : anchor? ms' = anchor? ms := by
  rw [anchor?,anchor?,stringMember?_shuffles shuffles]

theorem baseWithin_shuffles (base : Uri) : baseWithin base ms' = baseWithin base ms := by
  rw [baseWithin,baseWithin,selfId?_shuffles shuffles]

/-! Reading. -/

theorem find?_shuffles (S : Setting) (base : Uri) (name : String) :
    Part.find? name (partsOf S base ms') = Part.find? name (partsOf S base ms) := by
  rw [find?_partsOf,find?_partsOf,shuffles.lookup]

theorem keyword_shuffles (S : Setting) (base : Uri) (formats : Bool) :
    keyword formats ms' (partsOf S base ms') = keyword formats ms (partsOf S base ms) := by
  funext p
  unfold keyword memberKeyword restKeyword isTrue othersFree
  simp only [find?_shuffles shuffles,shuffles.lookup]

end

theorem keyword_steady (keys : List Uri) (base : Uri) (ms : List (String × Json)) (p : Part)
    (listed : p ∈ partsOf (finished keys) base ms) :
    Steady (keyword false ms (partsOf (finished keys) base ms) p) := by
  have parts := partsOf_alike steady_congruent (finished_steady keys) base ms
  exact keyword_alike steady_congruent false ms parts (List.forall₂_same.mp parts p listed)

/-- The keywords of a schema are read in the order of its members. -/
theorem readAlike_shuffles {ms ms' : List (String × Json)} (shuffles : Json.Shuffles ms ms') :
    ReadAlike (.object ms) (.object ms') := by
  intro keys base s gives
  unfold ofJson at gives ⊢
  rw [shuffles.lookup]
  split at gives
  · next v ref => exact ⟨s,by simpa only [ref] using gives,.same s⟩
  · next plain =>
    dsimp only
    rw [baseWithin_shuffles shuffles]
    have each (here : Uri) := keyword_steady keys here ms
    obtain ⟨here,home,later⟩ := Steady.gives_bind (steady_congruent.lift (baseWithin base ms))
      (fun here => (Steady.mapM (each here)).bind fun _ => .ok _) gives
    obtain ⟨found,read,last⟩ := (Steady.mapM (each here)).gives_bind (fun _ => .ok _) later
    cases last {}
    have perm : (partsOf (finished keys) here ms').Perm (partsOf (finished keys) here ms) := by
      rw [partsOf_eq,partsOf_eq]
      exact shuffles.perm.symm.map _
    obtain ⟨found',read',order⟩ := List.perm_comp_forall₂ perm (Steady.gives_mapM (each here) read)
    refine ⟨.keywords (found'.filterMap id),home.bind ?_,.keywords (order.symm.filterMap id)⟩
    rw [keyword_shuffles shuffles]
    exact (Gives.mapM read').bind fun _ => rfl

end Schema
end ApiReview
