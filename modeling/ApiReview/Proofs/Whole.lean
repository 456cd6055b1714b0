import ApiReview.Proofs.Meaning
import Mathlib.Algebra.Order.Ring.Int

/-! Values whose numbers are whole. Of them equality, limits and multiples are found out without
rounding, but for multiples, which are found out of the nearest doubles. -/
namespace ApiReview

theorem twoTo_add (m n : Nat) : twoTo (m + n) = twoTo m * twoTo n := Nat.pow_add 2 m n

theorem twoTo_pos (n : Nat) : 0 < twoTo n := Nat.pow_pos (by decide)

namespace Json

mutual

/-- All numbers in the value are whole, and written as such. -/
def Whole : Json → Prop
  | .number n => ∃ i fits, n = .integer i fits
  | .array items => WholeItems items
  | .object members => WholeMembers members
  | _ => True

def WholeItems : List Json → Prop
  | [] => True
  | v :: rest => Whole v ∧ WholeItems rest

def WholeMembers : List (String × Json) → Prop
  | [] => True
  | (_,v) :: rest => Whole v ∧ WholeMembers rest

end

theorem wholeItems_iff {items : List Json} : WholeItems items ↔ ∀ v ∈ items, v.Whole := by
  induction items with
  | nil => simp [WholeItems]
  | cons v rest ih => simp [WholeItems,ih]

theorem wholeMembers_iff {ms : List (String × Json)} : WholeMembers ms ↔ ∀ m ∈ ms, m.2.Whole := by
  induction ms with
  | nil => simp [WholeMembers]
  | cons m rest ih => obtain ⟨k,v⟩ := m; simp [WholeMembers,ih]

theorem whole_hereditary : Hereditary Whole := by
  rintro v w (item | ⟨m,member,rfl⟩) whole
  · cases w with
    | array vs => exact wholeItems_iff.mp whole v item
    | _ => cases item
  · cases w with
    | object ms => exact wholeMembers_iff.mp whole m member
    | _ => cases member

end Json

theorem Number.units_integer (i : Int) (fits : FitsWord i) :
    (Number.integer i fits).units = i * twoTo 1074 := rfl

theorem Number.same_integer {i j : Int} (one : FitsWord i) (two : FitsWord j) :
    (Number.integer i one).same (.integer j two) = true ↔ i = j := by
  have positive : (twoTo 1074 : Int) ≠ 0 := by exact_mod_cast (twoTo_pos 1074).ne'
  rw [Number.same,beq_iff_eq,units_integer,units_integer]
  exact ⟨mul_right_cancel₀ positive,fun same => same ▸ rfl⟩

namespace Json

mutual

/-- Values with whole numbers count as equal only if they are the same. -/
theorem same_iff : ∀ {a b : Json}, a.Whole → b.Whole → (same a b = true ↔ a = b)
  | .number a, .number b, one, two => by
    obtain ⟨i,fits,rfl⟩ := one
    obtain ⟨j,fits',rfl⟩ := two
    simp [same,Number.same_integer]
  | .array as, .array bs, one, two => by simpa [same] using sameItems_iff one two
  | .object as, .object bs, one, two => by simpa [same] using sameMembers_iff one two
  | .null, b, _, _ => by cases b <;> simp [same]
  | .bool _, b, _, _ => by cases b <;> simp [same]
  | .string _, b, _, _ => by cases b <;> simp [same]
  | .number _, .null, _, _ | .number _, .bool _, _, _ | .number _, .string _, _, _
  | .number _, .array _, _, _ | .number _, .object _, _, _ => by simp [same]
  | .array _, .null, _, _ | .array _, .bool _, _, _ | .array _, .string _, _, _
  | .array _, .number _, _, _ | .array _, .object _, _, _ => by simp [same]
  | .object _, .null, _, _ | .object _, .bool _, _, _ | .object _, .string _, _, _
  | .object _, .number _, _, _ | .object _, .array _, _, _ => by simp [same]

theorem sameItems_iff : ∀ {as bs : List Json}, WholeItems as → WholeItems bs →
    (sameItems as bs = true ↔ as = bs)
  | [], bs, _, _ => by cases bs <;> simp [sameItems]
  | _ :: _, [], _, _ => by simp [sameItems]
  | a :: as, b :: bs, one, two => by
    simp [sameItems,same_iff one.1 two.1,sameItems_iff one.2 two.2]

theorem sameMembers_iff : ∀ {as bs : List (String × Json)}, WholeMembers as → WholeMembers bs →
    (sameMembers as bs = true ↔ as = bs)
  | [], bs, _, _ => by cases bs <;> simp [sameMembers]
  | _ :: _, [], _, _ => by simp [sameMembers]
  | (k,a) :: as, (l,b) :: bs, one, two => by
    simp [sameMembers,same_iff one.1 two.1,sameMembers_iff one.2 two.2]

end

theorem allDifferent_iff {vs : List Json} (whole : ∀ v ∈ vs, v.Whole) :
    allDifferent vs = true ↔ vs.Pairwise fun v w => ¬ v = w := by
  induction vs with
  | nil => simp [allDifferent]
  | cons v rest ih =>
    have later := ih fun w member => whole w (List.mem_cons_of_mem v member)
    have here (w : Json) (member : w ∈ rest) : same v w = true ↔ v = w :=
      same_iff (whole v List.mem_cons_self) (whole w (List.mem_cons_of_mem v member))
    rw [allDifferent,Bool.and_eq_true,later,List.pairwise_cons]
    refine and_congr_left fun _ => ?_
    simp only [Bool.not_eq_true',List.any_eq_false]
    exact forall₂_congr fun w member => not_congr (here w member)

end Json

namespace Binary64

theorem roundDiv_one (n : Nat) : roundDiv n 1 = n := by simp [roundDiv,Nat.mod_one]

/-- A whole number that is rounded to a double stays whole: bits are lost only where the exponent
is not negative. -/
theorem units_ofRatio {negative : Bool} {n : Nat} {x : Binary64}
    (done : ofRatio? negative n 1 = some x) : (twoTo 1074 : Int) ∣ x.units := by
  suffices whole : ∃ k : Nat, x.mantissa * twoTo (x.exponent + 1074).toNat = k * twoTo 1074 by
    obtain ⟨k,same⟩ := whole
    have magnitude : (twoTo 1074 : Int) ∣ (k * twoTo 1074 : Nat) :=
      Int.natCast_dvd_natCast.mpr (Nat.dvd_mul_left _ k)
    unfold units
    rw [same]
    dsimp only
    split
    · exact Int.dvd_neg.mpr magnitude
    · exact magnitude
  unfold ofRatio? at done
  split at done
  · cases done
    exact ⟨0,by simp [zero]⟩
  · have least : -1074 ≤ exponentOf n 1 := le_max_left _ _
    generalize exponentOf n 1 = e at done least
    have carried : twoTo 52 * twoTo (e + 1 + 1074).toNat = twoTo 53 * twoTo (e + 1074).toNat := by
      rw [show (e + 1 + 1074).toNat = 1 + (e + 1074).toNat by omega,twoTo_add 1,← mul_assoc]
      rfl
    have held (m : Nat) : ∃ m' e', (if m = twoTo 53 then (twoTo 52,e + 1) else (m,e)) = (m',e') ∧
        m' * twoTo (e' + 1074).toNat = m * twoTo (e + 1074).toNat := by
      split
      · next full => exact ⟨_,_,rfl,by rw [carried,full]⟩
      · exact ⟨_,_,rfl,rfl⟩
    obtain ⟨m',e',same,value⟩ := held (if 0 ≤ e then roundDiv n (1 * twoTo e.toNat)
      else roundDiv (n * twoTo (-e).toNat) 1)
    simp only [same] at done
    split at done
    · cases done
      dsimp only
      rw [value]
      split
      · exact ⟨roundDiv n (1 * twoTo e.toNat) * twoTo e.toNat,by
          rw [show (e + 1074).toNat = e.toNat + 1074 by omega,twoTo_add,mul_assoc]⟩
      · exact ⟨n,by
          rw [roundDiv_one,mul_assoc,← twoTo_add,show (-e).toNat + (e + 1074).toNat = 1074 by omega]⟩
    · cases done

theorem units_nearest (i : Int) :
    ((ofInt? i).getD (.zero false)).units = nearest i * twoTo 1074 := by
  have whole : (twoTo 1074 : Int) ∣ ((ofInt? i).getD (.zero false)).units := by
    cases done : ofInt? i with
    | none =>
      have least : (zero false).units = 0 := rfl
      exact least ▸ Int.dvd_zero _
    | some x => exact units_ofRatio done
  exact (Int.ediv_mul_cancel whole).symm

theorem isZero_iff (x : Binary64) : x.isZero = true ↔ x.units = 0 := by
  have positive := (twoTo_pos (x.exponent + 1074).toNat).ne'
  unfold isZero units
  cases x.negative <;> simp [positive]

end Binary64

namespace Schema
open Binary64

theorem scaled_le {a b : Int} : a * twoTo 1074 ≤ b * twoTo 1074 ↔ a ≤ b :=
  Int.mul_le_mul_right (by exact_mod_cast twoTo_pos 1074)

theorem scaled_lt {a b : Int} : a * twoTo 1074 < b * twoTo 1074 ↔ a < b :=
  Int.mul_lt_mul_right (by exact_mod_cast twoTo_pos 1074)

/-- A whole number on the side of a limit that it has to be on. -/
def Keeps (side : Side) (strict : Bool) (limit n : Int) : Prop :=
  match side with
  | .lower => if strict then limit < n else limit ≤ n
  | .upper => if strict then n < limit else n ≤ limit

theorem withinLimit_iff {limit n : Int} (one : FitsWord limit) (two : FitsWord n) (side : Side)
    (strict : Bool) :
    withinLimit side strict (.integer limit one) (.integer n two) = true ↔
      Keeps side strict limit n := by
  cases side <;> cases strict
  · exact decide_eq_true_iff.trans scaled_le
  · exact decide_eq_true_iff.trans scaled_lt
  · exact decide_eq_true_iff.trans scaled_le
  · exact decide_eq_true_iff.trans scaled_lt

/-- Whether a whole number is a multiple is found out of the nearest doubles. -/
theorem isMultiple_iff {divisor n : Int} (one : FitsWord divisor) (two : FitsWord n) :
    isMultiple (Number.integer divisor one).toBinary64 (Number.integer n two).toBinary64 = true ↔
      nearest divisor ≠ 0 ∧ nearest divisor ∣ nearest n := by
  have positive : (twoTo 1074 : Int) ≠ 0 := by exact_mod_cast (twoTo_pos 1074).ne'
  have whole (i : Int) : ((ofInt? i).getD (.zero false)).isWhole = true := by
    rw [isWhole,beq_iff_eq,units_nearest]
    exact Int.mul_emod_left _ _
  have zero (i : Int) : ((ofInt? i).getD (.zero false)).isZero = true ↔ nearest i = 0 := by
    rw [isZero_iff,units_nearest,mul_eq_zero,or_iff_left positive]
  unfold isMultiple Number.toBinary64
  by_cases none : nearest divisor = 0
  · simp [(zero divisor).mpr none,none]
  · rw [if_neg (mt (zero divisor).mp none),if_pos (whole divisor),whole n]
    rw [Bool.true_and,beq_iff_eq,← Int.dvd_iff_emod_eq_zero,units_nearest,units_nearest]
    rw [Int.mul_dvd_mul_iff_right positive]
    exact ⟨fun divides => ⟨none,divides⟩,And.right⟩

end Schema
end ApiReview
