import ApiReview.Proofs.Conforming
import Mathlib.Data.Finset.Card
import Mathlib.Data.Finset.Range

/-! How often references are followed. Between two visits of one place of the table the value gets
less deep, unless questions go round in a circle, so that the verdict is there before the last
round. -/
namespace ApiReview.Schema
open Meaning

section
variable {r : Resources} {keys : List Uri} {root : Json} {v : Validator}

/-- What a place of the table leads to. -/
def Leads (r : Resources) (keys : List Uri) (i : Nat) (t : Target) : Prop :=
  ∃ uri, keys[i]? = some uri ∧ r.target uri = .ok t

theorem Leads.lt {i : Nat} {t : Target} (leads : Leads r keys i t) : i < keys.length :=
  have ⟨_,known,_⟩ := leads
  (List.getElem?_eq_some_iff.mp known).1

theorem Leads.unique {i : Nat} {t t' : Target} (one : Leads r keys i t) (two : Leads r keys i t') :
    t = t' := by
  obtain ⟨uri,known,led⟩ := one
  obtain ⟨uri',known',led'⟩ := two
  cases known.symm.trans known'
  cases led.symm.trans led'
  rfl

/-- The places that were visited on the way to a question, on the same value. -/
def Visited (r : Resources) (keys : List Uri) (visited : Finset Nat) (q : Question) : Prop :=
  ∀ j ∈ visited, ∃ t, Leads r keys j t ∧ Further r ⟨t.base,t.schema,q.value⟩ q

section
variable {visited : Finset Nat} {i : Nat} {t : Target} {value : Json}

/-- The way has not come by the place of the question itself. -/
theorem Visited.new (before : Visited r keys visited ⟨t.base,t.schema,value⟩)
    (leads : Leads r keys i t) (ends : Ends r ⟨t.base,t.schema,value⟩) : i ∉ visited := by
  intro old
  obtain ⟨t',leads',further⟩ := before i old
  cases leads.unique leads'
  exact ends.not_circle further

theorem Visited.few (before : Visited r keys visited ⟨t.base,t.schema,value⟩)
    (leads : Leads r keys i t) (ends : Ends r ⟨t.base,t.schema,value⟩) :
    visited.card < keys.length := by
  have inside : insert i visited ⊆ Finset.range keys.length := by
    refine Finset.insert_subset (Finset.mem_range.mpr leads.lt) fun j old => ?_
    obtain ⟨t',leads',_⟩ := before j old
    exact Finset.mem_range.mpr leads'.lt
  have fits := Finset.card_le_card inside
  rwa [Finset.card_insert_of_notMem (before.new leads ends),Finset.card_range] at fits

theorem Visited.insert {q : Question} (before : Visited r keys visited ⟨t.base,t.schema,q.value⟩)
    (leads : Leads r keys i t) (further : Further r ⟨t.base,t.schema,q.value⟩ q) :
    Visited r keys (insert i visited) q := by
  intro j member
  rcases Finset.mem_insert.mp member with rfl | old
  · exact ⟨t,leads,further⟩
  · obtain ⟨t',leads',earlier⟩ := before j old
    exact ⟨t',leads',earlier.trans further⟩

end

/-- A place gives the verdict on what it leads to, if the places that were visited on the way leave
enough rounds. With each round one more place is visited, or the value gets less deep. -/
theorem acceptsWithin_iff (all : r.All Json.Plain) (holds : v.Holds r keys root) {n i : Nat}
    {t : Target} {value : Json} (visited : Finset Nat) (leads : Leads r keys i t)
    (plain : value.Plain) (ends : Ends r ⟨t.base,t.schema,value⟩)
    (before : Visited r keys visited ⟨t.base,t.schema,value⟩)
    (enough : keys.length + (keys.length + 1) * value.depth ≤ n + visited.card) :
    Validator.acceptsWithin v.table n i value = true ↔
      Meaning.Holds r .ordered ⟨t.base,t.schema,value⟩ := by
  induction n generalizing i t value visited with
  | zero =>
    have few := before.few leads ends
    omega
  | succ n ih =>
    have few := before.few leads ends
    have new := before.new leads ends
    obtain ⟨uri,known,led⟩ := leads
    obtain ⟨t',led',gives⟩ := holds.places i uri known
    cases led.symm.trans led'
    have schema : t.schema.Plain := all.target Json.plain_hereditary led
    refine accepts_iff all holds.leads schema plain ends ?_ (.of_gives gives)
    intro j uri' t' w known' led'' further
    have reaches := further.to_reflTransGen
    have later := ends.of_reaches reaches
    have inner := (Reaches.all Json.plain_hereditary all schema plain reaches).2
    -- On the same value this place joins those that were visited; on one less deep all may come again.
    rcases further.value with same | lower
    · obtain rfl : w = value := same
      refine ih (insert i visited) ⟨uri',known',led''⟩ inner later
        (before.insert ⟨uri,known,led⟩ further) ?_
      rw [Finset.card_insert_of_notMem new]
      omega
    · refine ih ∅ ⟨uri',known',led''⟩ inner later (by simp [Visited]) ?_
      have less := Nat.mul_le_mul_left (keys.length + 1) (Nat.succ_le_of_lt lower)
      rw [Nat.mul_succ] at less
      rw [Finset.card_empty]
      dsimp only at less
      omega

/-- The verdict of a validator is whether the value satisfies the schema. -/
theorem Validator.accepts_iff (all : r.All Json.Plain) (holds : v.Holds r keys root)
    {document : Json} (schema : root.Plain) (plain : document.Plain)
    (ends : Ends r ⟨defaultBase,root,document⟩) :
    v.accepts document = true ↔ Meaning.Holds r .ordered ⟨defaultBase,root,document⟩ := by
  refine Schema.accepts_iff all holds.leads schema plain ends ?_ (.of_gives holds.root)
  intro i uri t w known led further
  have reaches := further.to_reflTransGen
  have inner := (Reaches.all Json.plain_hereditary all schema plain reaches).2
  have deep : w.depth ≤ document.depth := by
    rcases further.value with same | lower
    · exact Nat.le_of_eq (congrArg Json.depth same)
    · exact Nat.le_of_lt lower
  refine acceptsWithin_iff all holds ∅ ⟨uri,known,led⟩ inner (ends.of_reaches reaches)
    (by simp [Visited]) ?_
  have less := Nat.mul_le_mul_left (keys.length + 1) deep
  rw [Validator.rounds,holds.size,Finset.card_empty,Nat.mul_succ]
  omega

end

end ApiReview.Schema
