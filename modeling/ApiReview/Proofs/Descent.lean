import ApiReview.Proofs.Asking
import Mathlib.Data.List.Chain
import Mathlib.Logic.Function.Iterate
import Mathlib.Logic.Relation

/-! Validators that come to an end on every document. Where all chains of steps on one value are
short, what goes on goes on into the value, and references are followed often enough. -/
namespace ApiReview.Schema
open Relation

/-- Whether all chains of steps on one value have fewer than `n` steps, and meet no reference that
leads nowhere. -/
def settles (table : Array Schema) : Nat → Schema → Bool
  | 0, _ => false
  | n + 1, .reference i => i < table.size && settles table n (Validator.target table i)
  | n + 1, s => s.beside.all (settles table n)

/-- Whether a schema has a property, and so have all that are in it. -/
def throughout (p : Schema → Bool) : Nat → Schema → Bool
  | 0, _ => false
  | n + 1, s => p s && (s.beside ++ s.inside).all (throughout p n)

/-- Chains of steps on one value are short, wherever in a schema they start. -/
inductive Settled (table : Array Schema) (n : Nat) : Schema → Prop where
  | intro {s : Schema} : settles table n s = true →
    (∀ t ∈ s.beside ++ s.inside, Settled table n t) → Settled table n s

theorem Settled.short {table : Array Schema} {n : Nat} {s : Schema} :
    Settled table n s → settles table n s = true
  | .intro short _ => short

theorem Settled.inner {table : Array Schema} {n : Nat} {s : Schema} :
    Settled table n s → ∀ t ∈ s.beside ++ s.inside, Settled table n t
  | .intro _ inner => inner

theorem Settled.of_throughout {table : Array Schema} {n depth : Nat} {s : Schema}
    (check : throughout (settles table n) depth s = true) : Settled table n s := by
  induction depth generalizing s with
  | zero => cases check
  | succ depth ih =>
    obtain ⟨here,inner⟩ := (Bool.and_eq_true _ _).mp check
    exact .intro here fun t listed => ih (List.all_eq_true.mp inner t listed)

namespace Task
variable {table : Array Schema} {n : Nat} {a b : Task}

theorem Stays.value (stays : a.Stays table b) : b.value = a.value := by
  cases stays <;> rfl

theorem Descends.value (descends : a.Descends b) : b.value.Child a.value := by
  cases descends with
  | inside _ child => exact child

/-- A step on one value leaves fewer of them. -/
theorem Stays.settles (stays : a.Stays table b) (settled : settles table n a.schema = true) :
    ∃ m, n = m + 1 ∧ settles table m b.schema = true := by
  cases n with
  | zero => cases settled
  | succ m =>
    refine ⟨m,rfl,?_⟩
    cases stays with
    | follow i v => exact ((Bool.and_eq_true _ _).mp settled).2
    | @beside s t v listed =>
      cases s with
      | keywords list => exact List.all_eq_true.mp settled t listed
      | _ => cases listed

theorem known (settled : settles table n a.schema = true) {i : Nat} (same : a.schema = .reference i) :
    i < table.size := by
  cases n with
  | zero => cases settled
  | succ m =>
    rw [same] at settled
    exact of_decide_eq_true ((Bool.and_eq_true _ _).mp settled).1

theorem chain_short (settled : settles table n a.schema = true) {chain : List Task}
    (steps : List.IsChain (Stays table) (a :: chain)) : chain.length < n := by
  induction chain generalizing a n with
  | nil =>
    cases n with
    | zero => cases settled
    | succ m => exact Nat.succ_pos m
  | cons b rest ih =>
    obtain ⟨first,later⟩ := List.isChain_cons_cons.mp steps
    obtain ⟨m,rfl,left⟩ := first.settles settled
    exact Nat.succ_lt_succ (ih left later)

theorem stays_fewer (settled : settles table n a.schema = true)
    (further : TransGen (Stays table) a b) : ∃ m < n, settles table m b.schema = true := by
  induction further with
  | single stays =>
    obtain ⟨m,rfl,left⟩ := stays.settles settled
    exact ⟨m,Nat.lt_succ_self m,left⟩
  | tail _ stays ih =>
    obtain ⟨_,less,before⟩ := ih
    obtain ⟨m,rfl,left⟩ := stays.settles before
    exact ⟨m,by omega,left⟩

/-- On one value no schema comes up again. -/
theorem not_again (settled : settles table n a.schema = true) (further : TransGen (Stays table) a b) :
    b.schema ≠ a.schema := by
  -- A schema that came up again would do so with ever fewer steps left.
  induction n using Nat.strongRecOn with
  | ind n ih =>
    intro again
    obtain ⟨m,less,left⟩ := stays_fewer settled further
    exact ih m less (again ▸ left) again

/-- Steps stay on the value, or come to a part of it. -/
theorem further_value (further : TransGen (Steps table) a b) :
    b.value = a.value ∧ TransGen (Stays table) a b ∨ TransGen Json.Child b.value a.value := by
  induction further with
  | single step =>
    rcases step with stays | descends
    · exact .inl ⟨stays.value,.single stays⟩
    · exact .inr (.single descends.value)
  | tail _ step ih =>
    rcases step with stays | descends
    · rw [stays.value]
      exact ih.imp_left fun ⟨same,before⟩ => ⟨same,before.tail stays⟩
    · rcases ih with ⟨same,_⟩ | before
      · exact .inr (same ▸ .single descends.value)
      · exact .inr (.head descends.value before)

/-- What comes up again does so on a part of the value. -/
theorem again_inside (settled : settles table n a.schema = true) (further : TransGen (Steps table) a b)
    (again : b.schema = a.schema) : TransGen Json.Child b.value a.value :=
  (further_value further).resolve_left fun ⟨_,stays⟩ => not_again settled stays again

end Task

/-- What references come to once they are followed one time more. -/
def Following.round (table : Array Schema) (last : Following) : Following where
  accepts i v := (Validator.target table i).accepts last.accepts v
  faults i here v := (Validator.target table i).faults last here v

namespace Validator

/-- All that a validator holds is settled. -/
structure Settled (v : Validator) (n : Nat) : Prop where
  root : Schema.Settled v.table n v.root
  places : ∀ i < v.table.size, Schema.Settled v.table n (target v.table i)
  few : n ≤ v.table.size

/-- Whether all that a validator holds is settled; `depth` is how deep its schemas may be nested. -/
def settles (v : Validator) (n depth : Nat) : Bool :=
  n ≤ v.table.size && throughout (Schema.settles v.table n) depth v.root &&
    v.table.toList.all (throughout (Schema.settles v.table n) depth)

variable {v : Validator} {n : Nat}

theorem Settled.of_settles {depth : Nat} (check : v.settles n depth = true) : v.Settled n := by
  simp only [settles,Bool.and_eq_true,decide_eq_true_eq,List.all_eq_true] at check
  obtain ⟨⟨few,root⟩,places⟩ := check
  refine ⟨.of_throughout root,fun i inside => .of_throughout (places _ ?_),few⟩
  rw [target,Array.getElem?_eq_getElem inside]
  exact Array.getElem_mem_toList inside

namespace Settled
variable (settled : v.Settled n)
include settled

theorem step {a b : Task} (here : Schema.Settled v.table n a.schema) (step : a.Steps v.table b) :
    Schema.Settled v.table n b.schema := by
  rcases step with stays | descends
  · cases stays with
    | follow i v => exact settled.places i (Task.known (a := ⟨.reference i,v⟩) here.short rfl)
    | beside v listed => exact here.inner _ (List.mem_append_left _ listed)
  · cases descends with
    | inside listed _ => exact here.inner _ (List.mem_append_right _ listed)

theorem run {document : Json} {a : Task}
    (reached : ReflTransGen (Task.Steps v.table) ⟨v.root,document⟩ a) :
    Schema.Settled v.table n a.schema := by
  induction reached with
  | refl => exact settled.root
  | tail _ step ih => exact settled.step ih step

/-- The outer induction is on the depth of the value, the inner one on the steps left on it. -/
theorem ends {a : Task} (here : Schema.Settled v.table n a.schema) :
    Acc (fun b a => Task.Steps v.table a b) a := by
  induction deep : a.value.depth using Nat.strongRecOn generalizing a with
  | ind depth lower =>
    have short := here.short
    generalize n = left at short
    induction left generalizing a with
    | zero => cases short
    | succ left ih =>
      refine .intro a fun b step => ?_
      have next := settled.step here step
      rcases step with stays | descends
      · obtain ⟨_,⟨⟩,fewer⟩ := stays.settles short
        exact ih next (stays.value ▸ deep) fewer
      · exact lower _ (deep ▸ descends.value.depth_lt) next rfl

/-- References need not be followed more often than there are steps left on the value, and for each
level below it as many as there can be on one value. Then it does not matter what would come
after. -/
theorem same {m cost i j : Nat} {s : Schema} {value : Json} (last last' : Following)
    (here : Schema.Settled v.table n s) (short : Schema.settles v.table m s = true)
    (within : m + n * value.depth ≤ cost) (enough : cost ≤ i) (enough' : cost ≤ j) :
    Same Eq ((Following.round v.table)^[i] last) ((Following.round v.table)^[j] last') s s value := by
  induction cost generalizing m s value i j with
  | zero =>
    obtain rfl : m = 0 := by omega
    cases short
  | succ cost ih =>
    have stay {t : Schema} (stays : Task.Stays v.table ⟨s,value⟩ ⟨t,value⟩) {i j : Nat}
        (enough : cost ≤ i) (enough' : cost ≤ j) :
        Same Eq ((Following.round v.table)^[i] last) ((Following.round v.table)^[j] last') t t
          value := by
      obtain ⟨left,rfl,fewer⟩ := stays.settles short
      exact ih (settled.step (a := ⟨s,value⟩) (b := ⟨t,value⟩) here (.inl stays)) fewer (by omega)
        enough enough'
    cases s with
    | everything => exact .everything .eq value
    | nothing => exact .nothing .eq value
    | reference k =>
      obtain ⟨i,rfl⟩ : ∃ i', i = i' + 1 := ⟨i - 1,by omega⟩
      obtain ⟨j,rfl⟩ : ∃ j', j = j' + 1 := ⟨j - 1,by omega⟩
      rw [Function.iterate_succ_apply',Function.iterate_succ_apply']
      have led := stay (.follow k value) (Nat.le_of_succ_le_succ enough)
        (Nat.le_of_succ_le_succ enough')
      exact ⟨led.accepts,led.faults⟩
    | keywords list =>
      have asked : Same Eq ((Following.round v.table)^[i] last) ((Following.round v.table)^[j] last')
          (.keywords list) (.keywords (list.map (·.map id))) value := by
        refine keywords_same .eq (fun t listed => stay (.beside value listed)
          (Nat.le_of_succ_le enough) (Nat.le_of_succ_le enough')) fun t listed w child => ?_
        have next := settled.step (a := ⟨.keywords list,value⟩) (b := ⟨t,w⟩) here
          (.inr (.inside listed child))
        have deeper := Nat.mul_le_mul_left n (Nat.succ_le_of_lt child.depth_lt)
        have left : 0 < m := Task.chain_short (a := ⟨.keywords list,value⟩) short (.singleton _)
        refine ih next next.short ?_ (by omega) (by omega)
        rw [Nat.mul_succ] at deeper
        omega
      rwa [list.map_id'' Keyword.map_id] at asked

end Settled

/-- Validation of a document comes to an end. What is asked on the way is all that is reached from the
root of the schema and the document. -/
structure Terminates (v : Validator) (limit : Nat) (document : Json) : Prop where
  /-- What is asked rests on no chain without end. -/
  ends : Acc (fun b a => Task.Steps v.table a b) ⟨v.root,document⟩
  /-- All references that are met lead to a place of the table. -/
  known : ∀ a i, ReflTransGen (Task.Steps v.table) ⟨v.root,document⟩ a → a.schema = .reference i →
    i < v.table.size
  /-- Chains of steps on one value are bounded, whatever the document. -/
  short : ∀ a chain, ReflTransGen (Task.Steps v.table) ⟨v.root,document⟩ a →
    List.IsChain (Task.Stays v.table) (a :: chain) → chain.length < limit
  /-- What comes up again does so strictly inside the value. -/
  inside : ∀ a b, ReflTransGen (Task.Steps v.table) ⟨v.root,document⟩ a →
    TransGen (Task.Steps v.table) a b → b.schema = a.schema → TransGen Json.Child b.value a.value
  /-- References are followed often enough: it makes no difference to follow them more often, nor
  what would be said of those that are left then. -/
  enough : ∀ n last, v.rounds document ≤ n →
    v.root.accepts ((Following.round v.table)^[n] last).accepts document = v.accepts document ∧
    v.root.faults ((Following.round v.table)^[n] last) .root document = v.faults document

/-- Following references up to a number of times is going round as often. -/
theorem within_eq_iterate (table : Array Schema) (n : Nat) :
    (⟨acceptsWithin table n,faultsWithin table n⟩ : Following) =
      (Following.round table)^[n] ⟨fun _ _ => true,fun _ _ _ => []⟩ := by
  induction n with
  | zero => rfl
  | succ n ih =>
    rw [Function.iterate_succ_apply',← ih]
    rfl

theorem Settled.terminates (settled : v.Settled n) (document : Json) : v.Terminates n document where
  ends := settled.ends settled.root
  known _ _ reached same := Task.known (settled.run reached).short same
  short _ _ reached steps := Task.chain_short (settled.run reached).short steps
  inside _ _ reached further again := Task.again_inside (settled.run reached).short further again
  enough m last enough := by
    have fits : n + n * document.depth ≤ v.rounds document := by
      have more := Nat.mul_le_mul_right (document.depth + 1) (Nat.le_succ_of_le settled.few)
      rw [rounds]
      rwa [Nat.mul_succ,Nat.add_comm] at more
    have same := settled.same ⟨fun _ _ => true,fun _ _ _ => []⟩ last settled.root settled.root.short
      fits (Nat.le_refl _) enough
    rw [← within_eq_iterate] at same
    exact ⟨same.accepts,(same.faults .root).symm⟩

end Validator
end ApiReview.Schema
