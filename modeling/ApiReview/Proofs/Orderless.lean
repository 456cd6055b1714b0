import ApiReview.Proofs.Shuffling
import ApiReview.Proofs.Tolerance

/-! The schema of schemas, and the order of members. It asks nothing about a schema itself that depends
on the order of its members, though what it asks about their values may. -/
namespace ApiReview.Schema

/-- Whether a keyword comes to the same for an object in any order; `deeper` tells it of the schemas
that are asked about the object itself. -/
def Keyword.orderless (deeper : Schema → Bool) : Keyword → Bool
  | .constraint (.kind _) => true
  | .required _ => true
  | .dependencies list => list.all (deeper ·.2)
  | .properties _ => true
  | _ => false

/-- Whether a schema does so, without following references about the object itself. -/
def orderless : Nat → Schema → Bool
  | n + 1, .keywords list => list.all (·.orderless (orderless n))
  | _, _ => false

section
variable {ms ms' : List (String × Json)} (shuffles : Json.Shuffles ms ms') {f : Nat → Json → Bool}
include shuffles

theorem dependenciesAccept_shuffles {list : List (String × Schema)}
    (each : ∀ p ∈ list, accepts f p.2 (.object ms') = accepts f p.2 (.object ms)) :
    dependenciesAccept f list ms' = dependenciesAccept f list ms := by
  induction list with
  | nil => rfl
  | cons p rest ih =>
    obtain ⟨here,later⟩ := List.forall_mem_cons.mp each
    rw [dependenciesAccept,dependenciesAccept,shuffles.lookup,here,ih later]

theorem namedAccept_shuffles (list : List (String × Schema)) :
    namedAccept f list ms' = namedAccept f list ms := by
  induction list with
  | nil => rfl
  | cons p rest ih => rw [namedAccept,namedAccept,shuffles.lookup,ih]

theorem Keyword.accepts_orderless {deeper : Schema → Bool}
    (sound : ∀ s, deeper s = true → accepts f s (.object ms') = accepts f s (.object ms)) {k : Keyword}
    (check : k.orderless deeper = true) :
    keywordAccepts f k (.object ms') = keywordAccepts f k (.object ms) := by
  unfold Keyword.orderless at check
  split at check
  · next kinds =>
    have same (k : Kind) : k.has (.object ms') = k.has (.object ms) := by cases k <;> rfl
    simp only [keywordAccepts,Constraint.accepts,same]
  · simp only [keywordAccepts,shuffles.lookup]
  · exact dependenciesAccept_shuffles shuffles fun p listed =>
      sound p.2 (List.all_eq_true.mp check p listed)
  · exact namedAccept_shuffles shuffles _
  · cases check

theorem accepts_orderless {n : Nat} {s : Schema} (check : orderless n s = true) :
    accepts f s (.object ms') = accepts f s (.object ms) := by
  induction n generalizing s with
  | zero => cases check
  | succ n ih =>
    cases s with
    | keywords list =>
      have each := List.all_eq_true.mp check
      rw [accepts,accepts,Bool.eq_iff_iff,keywordsAccept_iff,keywordsAccept_iff]
      refine forall₂_congr fun k listed => ?_
      rw [Keyword.accepts_orderless shuffles (fun s => ih) (each k listed)]
    | _ => cases check

end

theorem membersDepth_perm {ms ms' : List (String × Json)} (perm : ms.Perm ms') :
    Json.membersDepth ms' = Json.membersDepth ms := by
  induction perm with
  | nil => rfl
  | cons m _ ih => rw [Json.membersDepth,Json.membersDepth,ih]
  | swap m m' rest => simp only [Json.membersDepth,Nat.max_left_comm]
  | trans _ _ one two => exact two.trans one

theorem metaschema_orderless : metaschema.toOption.any (fun w => orderless 2 w.root) = true := by
  decide +kernel

/-- A schema is one in any order of its members. -/
theorem check_shuffles {ms ms' : List (String × Json)} (shuffles : Json.Shuffles ms ms')
    (fine : check (.object ms) = .ok ()) : check (.object ms') = .ok () := by
  obtain ⟨w,built,holds⟩ := check_ok_iff.mp fine
  have orderless := metaschema_orderless
  rw [built] at orderless
  refine check_ok_iff.mpr ⟨w,built,?_⟩
  rw [Validator.accepts,Validator.rounds,Json.depth,membersDepth_perm shuffles.perm,
    accepts_orderless shuffles orderless]
  exact holds

end ApiReview.Schema
