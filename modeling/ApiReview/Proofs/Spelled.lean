import ApiReview.Proofs.Matching
import ApiReview.Schema.Constraint

/-! The parts of patterns: characters that are spelled out, runs of a class, and the start of the
text. A pattern that is the start of the text and then characters matches exactly the texts that
begin with these characters. -/
namespace ApiReview

namespace Regex
open Regex.Place

/-- Characters one after the other, behind an expression. -/
def spell (r : Regex) (cs : List Char) : Regex :=
  cs.foldl (fun r c => .seq r (.chars (.singleton c))) r

/-- There is nothing to match before the start of the text. -/
def startsText : Regex → Bool
  | .assertion .textStart => true
  | .seq a _ => a.startsText
  | _ => false

section
variable {r : Regex} {set : CharSet} {greedy : Bool} {p q : Place} {n : Nat} {cs : List Char}

theorem leads_seq {a b : Regex} : Leads (.seq a b) p q ↔ ∃ m, Leads a p m ∧ Leads b m q := .rfl

theorem leads_alt {a b : Regex} : Leads (.alt a b) p q ↔ Leads a p q ∨ Leads b p q := .rfl

/-- Of three parts the last two may be taken together. -/
theorem exists_assoc {A C : Place → Prop} {B : Place → Place → Prop} :
    (∃ m, (∃ n, A n ∧ B n m) ∧ C m) ↔ ∃ n, A n ∧ ∃ m, B n m ∧ C m := by
  constructor
  · rintro ⟨m,⟨n,first,second⟩,third⟩
    exact ⟨n,first,m,second,third⟩
  · rintro ⟨n,first,m,second,third⟩
    exact ⟨m,⟨n,first,second⟩,third⟩

theorem contains_singleton {c d : Char} : (CharSet.singleton c).contains d = true ↔ d = c := by
  have same : d.toNat = c.toNat ↔ d = c := ⟨fun eq => Char.ext (UInt32.toNat_inj.mp eq),congrArg _⟩
  rw [← same,CharSet.singleton,CharSet.contains,Text.Ranges.contains]
  simp
  omega

theorem leads_single {c : Char} : Leads (.chars (.singleton c)) p q ↔ Walks [c] p q := by
  simp [Leads,contains_singleton]

theorem leads_spell : Leads (spell r cs) p q ↔ ∃ m, Leads r p m ∧ Walks cs m q := by
  induction cs generalizing r with
  | nil => simp [spell,walks_nil]
  | cons c cs ih =>
    refine (ih (r := .seq r (.chars (.singleton c)))).trans ?_
    simp only [Leads,contains_singleton,exists_eq_left]
    constructor
    · rintro ⟨x,⟨m,before,one⟩,others⟩
      exact ⟨m,before,one.trans others⟩
    · rintro ⟨m,before,walks⟩
      obtain ⟨x,one,others⟩ := walks_append.mp (show Walks ([c] ++ cs) m q from walks)
      exact ⟨x,⟨m,before,one⟩,others⟩

theorem isPlain_spell : (spell r cs).isPlain = r.isPlain := by
  induction cs generalizing r with
  | nil => rfl
  | cons c cs ih => exact (ih (r := .seq r (.chars (.singleton c)))).trans (Bool.and_true _)

theorem startsText_spell : r.startsText = true → (spell r cs).startsText = true := by
  induction cs generalizing r with
  | nil => exact id
  | cons c cs ih => exact fun starts => ih (r := .seq r (.chars (.singleton c))) starts

theorem leads_textStart : Leads (.assertion .textStart) p q ↔ q = p ∧ p.before = [] := by
  simp [Leads,Assertion.holds]

theorem leads_textEnd : Leads (.assertion .textEnd) p q ↔ q = p ∧ p.after = [] := by
  simp [Leads,Assertion.holds]

theorem leads_optional : Leads (.repeated r 0 (some 1) greedy) p q ↔ q = p ∨ Leads r p q := by
  constructor
  · rintro ⟨n,_,few,taken⟩
    have few : n ≤ 1 := by simpa using few
    rcases Nat.le_one_iff_eq_zero_or_eq_one.mp few with rfl | rfl
    · exact .inl taken
    · obtain ⟨m,one,rfl⟩ := taken
      exact .inr one
  · rintro (rfl | one)
    · exact ⟨0,Nat.le_refl 0,by simp,rfl⟩
    · exact ⟨1,Nat.zero_le 1,by simp,q,one,rfl⟩

theorem repeats_chars : Repeats (Leads (.chars set)) n p q ↔
    ∃ cs, cs.length = n ∧ (∀ c ∈ cs, set.contains c = true) ∧ Walks cs p q := by
  induction n generalizing p with
  | zero =>
    constructor
    · exact fun same => ⟨[],rfl,by simp,walks_nil.mpr same⟩
    · rintro ⟨cs,none,_,walks⟩
      obtain rfl := List.length_eq_zero_iff.mp none
      exact walks_nil.mp walks
  | succ n ih =>
    constructor
    · rintro ⟨m,⟨c,inside,one⟩,rest⟩
      obtain ⟨cs,rfl,all,others⟩ := ih.mp rest
      exact ⟨c :: cs,rfl,List.forall_mem_cons.mpr ⟨inside,all⟩,one.trans others⟩
    · rintro ⟨_ | ⟨c,cs⟩,length,all,walks⟩
      · cases length
      · obtain ⟨m,one,others⟩ := walks_append.mp (show Walks ([c] ++ cs) p q from walks)
        obtain ⟨inside,all⟩ := List.forall_mem_cons.mp all
        exact ⟨m,⟨c,inside,one⟩,ih.mpr ⟨cs,Nat.succ.inj length,all,others⟩⟩

/-- A class at least once. -/
theorem leads_run : Leads (.repeated (.chars set) 1 none greedy) p q ↔
    ∃ cs, cs ≠ [] ∧ (∀ c ∈ cs, set.contains c = true) ∧ Walks cs p q := by
  constructor
  · rintro ⟨n,some,_,taken⟩
    obtain ⟨cs,rfl,inside,walks⟩ := repeats_chars.mp taken
    exact ⟨cs,List.length_pos_iff.mp some,inside,walks⟩
  · rintro ⟨cs,some,inside,walks⟩
    exact ⟨cs.length,List.length_pos_iff.mpr some,by simp,repeats_chars.mpr ⟨cs,rfl,inside,walks⟩⟩

theorem Leads.at_start (starts : r.startsText = true) (leads : Leads r p q) : p.before = [] := by
  fun_induction startsText r generalizing q with
  | case1 => exact (leads_textStart.mp leads).2
  | case2 a _ ih =>
    obtain ⟨m,first,_⟩ := leads
    exact ih starts first
  | case3 => cases starts

theorem isMatch_iff_of_startsText (plain : r.isPlain = true) (starts : r.startsText = true)
    {text : String} : r.isMatch text = true ↔ ∃ q, Leads r (.start text.toList) q := by
  rw [isMatch_iff plain]
  constructor
  · rintro ⟨cs,p,q,walks,leads⟩
    have before := walks.before.symm.trans (leads.at_start starts)
    obtain rfl : cs = [] := by simpa using (List.append_eq_nil_iff.mp before).1
    obtain rfl := walks_nil.mp walks
    exact ⟨q,leads⟩
  · rintro ⟨q,leads⟩
    exact ⟨[],_,q,walks_nil.mpr rfl,leads⟩

end

end Regex

namespace Schema

/-- A pattern for all names that begin in some way. -/
def Pattern.begins (p : Pattern) (front : String) : Bool :=
  p.regex = Regex.spell (.assertion .textStart) front.toList

theorem Pattern.matches_begins {p : Pattern} {front : String} (begins : p.begins front = true)
    (name : String) : p.matches name = name.startsWith front := by
  have spelled : p.regex = Regex.spell (.assertion .textStart) front.toList :=
    of_decide_eq_true begins
  rw [Bool.eq_iff_iff,Pattern.matches,spelled,String.startsWith_string_iff,
    Regex.isMatch_iff_of_startsText Regex.isPlain_spell (Regex.startsText_spell rfl)]
  simp only [Regex.leads_spell,Regex.leads_textStart]
  constructor
  · rintro ⟨q,_,⟨rfl,_⟩,walks⟩
    exact ⟨q.after,walks.after.symm⟩
  · rintro ⟨rest,text⟩
    obtain ⟨q,walks,_⟩ := Regex.Place.exists_walks (p := .start name.toList) text.symm
    exact ⟨q,_,⟨rfl,rfl⟩,walks⟩

end Schema
end ApiReview
