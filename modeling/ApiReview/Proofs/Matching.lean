import ApiReview.Regex.Matching
import Mathlib.Data.List.Basic

/-! What the matcher finds. The places that an expression leads to are given by a relation that knows
of no order among them, and of no bounds but those of the expression. -/
namespace ApiReview.Regex

/-- Some characters lead from one place to another. -/
structure Place.Walks (cs : List Char) (p q : Place) : Prop where
  after : p.after = cs ++ q.after
  before : q.before = cs.reverse ++ p.before
  offset : q.offset = p.offset + cs.length
  groups : q.groups = p.groups

/-- A step is taken a number of times. -/
def Repeats (one : Place → Place → Prop) : Nat → Place → Place → Prop
  | 0, p, q => q = p
  | n + 1, p, q => ∃ m, one p m ∧ Repeats one n m q

/-- What an expression without groups, looks, references and atomic parts leads to. -/
def Leads : Regex → Place → Place → Prop
  | .empty, p, q => q = p
  | .chars set, p, q => ∃ c, set.contains c = true ∧ Place.Walks [c] p q
  | .seq a b, p, q => ∃ m, Leads a p m ∧ Leads b m q
  | .alt a b, p, q => Leads a p q ∨ Leads b p q
  | .repeated r least most _, p, q =>
    ∃ n, least ≤ n ∧ (∀ top ∈ most, n ≤ max least top) ∧ Repeats (Leads r) n p q
  | .assertion a, p, q => q = p ∧ a.holds p.before.head? p.after.head? = true
  | _, _, _ => False

/-- There are no groups, looks, references and atomic parts. -/
def isPlain : Regex → Bool
  | .empty | .chars _ | .assertion _ => true
  | .seq a b | .alt a b => a.isPlain && b.isPlain
  | .repeated r .. => r.isPlain
  | _ => false

namespace Place

variable {p q m : Place} {cs ds : List Char} {c : Char}

theorem walks_nil : Walks [] p q ↔ q = p := by
  constructor
  · rintro ⟨after,before,offset,groups⟩
    obtain ⟨_,_,_,_⟩ := p
    obtain ⟨_,_,_,_⟩ := q
    simp_all
  · rintro rfl
    exact ⟨rfl,rfl,rfl,rfl⟩

theorem Walks.trans (one : Walks cs p m) (two : Walks ds m q) : Walks (cs ++ ds) p q where
  after := by rw [one.after,two.after,List.append_assoc]
  before := by rw [two.before,one.before,List.reverse_append,List.append_assoc]
  offset := by rw [two.offset,one.offset,List.length_append,Nat.add_assoc]
  groups := two.groups.trans one.groups

/-- Where characters come next there is a place behind them. -/
theorem exists_walks {rest : List Char} (next : p.after = cs ++ rest) :
    ∃ q, Walks cs p q ∧ q.after = rest :=
  ⟨⟨cs.reverse ++ p.before,rest,p.offset + cs.length,p.groups⟩,⟨next,rfl,rfl,rfl⟩,rfl⟩

/-- A whole text leads to its end. -/
theorem exists_walks_start {text : String} (same : text.toList = cs) :
    ∃ q, Walks cs (.start text.toList) q ∧ q.after = [] :=
  exists_walks (same.trans (List.append_nil cs).symm)

theorem Walks.unique {m : Place} (one : Walks cs p q) (two : Walks cs p m) : q = m := by
  obtain ⟨after,before,offset,groups⟩ := one
  obtain ⟨after',before',offset',groups'⟩ := two
  obtain ⟨_,_,_,_⟩ := q
  obtain ⟨_,_,_,_⟩ := m
  simp_all

theorem walks_append : Walks (cs ++ ds) p q ↔ ∃ m, Walks cs p m ∧ Walks ds m q := by
  constructor
  · intro both
    obtain ⟨m,one,rest⟩ := exists_walks (both.after.trans (List.append_assoc ..))
    obtain ⟨r,two,_⟩ := exists_walks rest
    obtain rfl := both.unique (one.trans two)
    exact ⟨m,one,two⟩
  · rintro ⟨m,one,two⟩
    exact one.trans two

theorem next?_eq_some_iff {wanted : Char → Bool} :
    p.next? wanted = some q ↔ ∃ c, wanted c = true ∧ Walks [c] p q := by
  constructor
  · intro found
    rw [next?] at found
    split at found
    · cases found
    · next c rest after =>
      split at found
      · next inside =>
        cases found
        exact ⟨c,inside,after,rfl,rfl,rfl⟩
      · cases found
  · rintro ⟨c,inside,after,before,offset,groups⟩
    obtain ⟨_,_,_,_⟩ := q
    simp_all [next?]

end Place

open Regex.Place

/-! Repeated steps. -/
section
variable {one two : Place → Place → Prop} {p q : Place} {m n : Nat}

theorem repeats_add : Repeats one (m + n) p q ↔ ∃ x, Repeats one m p x ∧ Repeats one n x q := by
  induction m generalizing p with
  | zero => simp [Repeats]
  | succ m ih =>
    rw [Nat.succ_add,Repeats]
    simp only [ih,Repeats]
    constructor
    · rintro ⟨y,first,x,left,right⟩
      exact ⟨x,⟨y,first,left⟩,right⟩
    · rintro ⟨x,⟨y,first,left⟩,right⟩
      exact ⟨y,first,x,left,right⟩

theorem Repeats.imp (implies : ∀ p q, one p q → two p q) (taken : Repeats one n p q) :
    Repeats two n p q := by
  induction n generalizing p with
  | zero => exact taken
  | succ n ih =>
    obtain ⟨m,first,rest⟩ := taken
    exact ⟨m,implies p m first,ih rest⟩

theorem Repeats.walks (walks : ∀ p q, one p q → ∃ cs, Walks cs p q) (taken : Repeats one n p q) :
    ∃ cs, Walks cs p q := by
  induction n generalizing p with
  | zero => exact ⟨[],walks_nil.mpr taken⟩
  | succ n ih =>
    obtain ⟨m,first,rest⟩ := taken
    obtain ⟨cs,front⟩ := walks p m first
    obtain ⟨ds,back⟩ := ih rest
    exact ⟨cs ++ ds,front.trans back⟩

end

/-- An expression takes characters from the front of what is left. -/
theorem Leads.walks {r : Regex} {p q : Place} (leads : Leads r p q) : ∃ cs, Walks cs p q := by
  induction r generalizing p q with
  | empty => exact ⟨[],walks_nil.mpr leads⟩
  | chars set =>
    obtain ⟨c,_,walks⟩ := leads
    exact ⟨[c],walks⟩
  | seq a b iha ihb =>
    obtain ⟨m,left,right⟩ := leads
    obtain ⟨cs,front⟩ := iha left
    obtain ⟨ds,back⟩ := ihb right
    exact ⟨cs ++ ds,front.trans back⟩
  | alt a b iha ihb => exact leads.elim iha ihb
  | repeated r least most greedy ih =>
    obtain ⟨n,_,_,taken⟩ := leads
    exact taken.walks fun _ _ => ih
  | assertion a => exact ⟨[],walks_nil.mpr leads.1⟩
  | group | look | reference | atomic => exact leads.elim

/-! Lists of places. -/

theorem mem_distinct {places : List Place} {q : Place} : q ∈ distinct places ↔ q ∈ places := by
  suffices ∀ found, q ∈ places.foldl (fun found p => if found.contains p then found else p :: found)
      found ↔ q ∈ found ∨ q ∈ places by simpa [distinct] using this []
  intro found
  induction places generalizing found with
  | nil => simp
  | cons p places ih =>
    rw [List.foldl_cons,ih]
    by_cases old : p ∈ found
    · simp only [List.contains_eq_mem,old,decide_true,if_true,List.mem_cons]
      constructor
      · exact Or.imp_right .inr
      · rintro (there | rfl | later)
        · exact .inl there
        · exact .inl old
        · exact .inr later
    · simp [old,or_assoc,or_left_comm]

theorem mem_times {step : Place → List Place} {n : Nat} {places : List Place} {q : Place} :
    q ∈ times step n places ↔ ∃ p ∈ places, Repeats (fun p q => q ∈ step p) n p q := by
  induction n generalizing places with
  | zero => simp [times,Repeats]
  | succ n ih =>
    rw [times]
    split
    · next none => simp [List.isEmpty_iff.mp none]
    · rw [ih]
      simp only [mem_distinct,List.mem_flatMap,Repeats]
      constructor
      · rintro ⟨m,⟨p,member,first⟩,rest⟩
        exact ⟨p,member,m,first,rest⟩
      · rintro ⟨p,member,m,first,rest⟩
        exact ⟨m,⟨p,member,first⟩,rest⟩

/-! The search. Rounds that match nothing lead nowhere else, so that only those count which get
ahead. -/

/-- Steps that get ahead, one after the other. -/
def Path (step : Place → List Place) : Nat → Place → Place → Prop :=
  Repeats fun p q => q ∈ step p ∧ p.offset < q.offset

section
variable {step : Place → List Place} {p q : Place} {n : Nat}

theorem Path.offset_le (path : Path step n p q) : p.offset ≤ q.offset := by
  induction n generalizing p with
  | zero => exact Nat.le_of_eq (congrArg Place.offset path.symm)
  | succ n ih =>
    obtain ⟨m,⟨_,ahead⟩,rest⟩ := path
    exact Nat.le_trans (Nat.le_of_lt ahead) (ih rest)

variable (walks : ∀ p, ∀ q ∈ step p, ∃ cs, Walks cs p q)
include walks

/-- Every round takes a character. -/
theorem Path.le_length (path : Path step n p q) : n ≤ p.after.length := by
  induction n generalizing p with
  | zero => exact Nat.zero_le _
  | succ n ih =>
    obtain ⟨m,⟨member,ahead⟩,rest⟩ := path
    obtain ⟨cs,walk⟩ := walks p m member
    have taken := congrArg List.length walk.after
    have offset := walk.offset
    have fewer := ih rest
    rw [List.length_append] at taken
    omega

/-- A round that matches nothing can be left out. -/
theorem exists_path (taken : Repeats (fun p q => q ∈ step p) n p q) : ∃ j ≤ n, Path step j p q := by
  induction n generalizing p with
  | zero => exact ⟨0,Nat.le_refl 0,taken⟩
  | succ n ih =>
    obtain ⟨m,member,rest⟩ := taken
    obtain ⟨j,few,path⟩ := ih rest
    obtain ⟨cs,walk⟩ := walks p m member
    cases cs with
    | nil =>
      -- Without groups such a round ends at the very place where it began.
      obtain rfl := walks_nil.mp walk
      exact ⟨j,Nat.le_succ_of_le few,path⟩
    | cons c cs =>
      have ahead : p.offset < m.offset := by simp [walk.offset]
      exact ⟨j + 1,Nat.succ_le_succ few,m,⟨member,ahead⟩,path⟩

end

section
variable {step : Place → List Place} {bounded greedy : Bool}

/-- From a marked place as many rounds as are left lead to marked places. -/
def Settled (step : Place → List Place) (bounded : Bool) (found : List (Nat × Place))
    (mark : Nat × Place) : Prop :=
  ∀ n q, Path step n mark.2 q → (bounded = true → n ≤ mark.1) → ∃ i, (i,q) ∈ found

theorem Settled.mono {found found' : List (Nat × Place)} {mark : Nat × Place}
    (settled : Settled step bounded found mark) (kept : found ⊆ found') :
    Settled step bounded found' mark := by
  intro n q path few
  obtain ⟨i,member⟩ := settled n q path few
  exact ⟨i,kept member⟩

/-- What a search from some places, with `n` rounds left for each, makes of the marks found before
it. Places at offsets before `least` may still be under way. -/
structure Explored (step : Place → List Place) (bounded : Bool) (n least : Nat)
    (places : List Place) (found found' : List (Nat × Place)) : Prop where
  kept : found ⊆ found'
  marked : ∀ p ∈ places, (if bounded then n else 0,p) ∈ found'
  reached : ∀ mark ∈ found', mark ∈ found ∨ ∃ p ∈ places, ∃ j ≤ n, Path step j p mark.2
  settled : (∀ mark ∈ found, least ≤ mark.2.offset → Settled step bounded found mark) →
    ∀ mark ∈ found', least ≤ mark.2.offset → Settled step bounded found' mark

theorem explored_nil (n least : Nat) (found : List (Nat × Place)) :
    Explored step bounded n least [] found found :=
  ⟨List.Subset.refl _,by simp,fun _ member => .inl member,fun settled => settled⟩

/-- Places are searched one after the other, each from its own offset on. -/
theorem explored_cons {n least : Nat} {p : Place} {places : List Place}
    {found found' found'' : List (Nat × Place)} (ahead : least ≤ p.offset)
    (first : Explored step bounded n p.offset [p] found found')
    (rest : Explored step bounded n least places found' found'') :
    Explored step bounded n least (p :: places) found found'' := by
  refine ⟨List.Subset.trans first.kept rest.kept,?_,?_,?_⟩
  · exact List.forall_mem_cons.mpr ⟨rest.kept (first.marked p List.mem_cons_self),rest.marked⟩
  · intro mark member
    rcases rest.reached mark member with old | ⟨q,there,path⟩
    · rcases first.reached mark old with older | ⟨q,there,path⟩
      · exact .inl older
      · obtain rfl := List.mem_singleton.mp there
        exact .inr ⟨q,List.mem_cons_self,path⟩
    · exact .inr ⟨q,List.mem_cons_of_mem p there,path⟩
  · intro settled
    refine rest.settled fun mark member from' => ?_
    by_cases late : p.offset ≤ mark.2.offset
    · exact first.settled (fun mark old late => settled mark old (Nat.le_trans ahead late)) mark
        member late
    · rcases first.reached mark member with old | ⟨q,there,j,_,path⟩
      · exact (settled mark old from').mono first.kept
      · obtain rfl := List.mem_singleton.mp there
        exact absurd path.offset_le late

theorem explored_foldl {n least : Nat} {search : Place → List (Nat × Place) → List (Nat × Place)}
    (places : List Place) (ahead : ∀ p ∈ places, least ≤ p.offset)
    (each : ∀ p ∈ places, ∀ found, Explored step bounded n p.offset [p] found (search p found))
    (found : List (Nat × Place)) :
    Explored step bounded n least places found
      (places.foldl (fun found p => search p found) found) := by
  induction places generalizing found with
  | nil => exact explored_nil n least found
  | cons p places ih =>
    rw [List.forall_mem_cons] at ahead each
    exact explored_cons ahead.1 (each.1 found) (ih ahead.2 each.2 (search p found))

/-- Nothing is added where the place is marked already. -/
theorem explored_marked {n : Nat} {p : Place} {found : List (Nat × Place)}
    (marked : (if bounded then n else 0,p) ∈ found) :
    Explored step bounded n p.offset [p] found found :=
  ⟨List.Subset.refl _,by simpa using marked,fun _ member => .inl member,fun settled => settled⟩

/-- A place is marked before the places that its rounds get to, or after them. -/
theorem explored_around {n : Nat} {p : Place} {found found' before behind : List (Nat × Place)}
    (deeper : Explored step bounded n (p.offset + 1) ((step p).filter (p.offset < ·.offset))
      before behind)
    (marked : (if bounded then n + 1 else 0,p) ∈ found')
    (from' : found ⊆ before) (only : before ⊆ (if bounded then n + 1 else 0,p) :: found)
    (all : behind ⊆ found') (only' : found' ⊆ (if bounded then n + 1 else 0,p) :: behind) :
    Explored step bounded (n + 1) p.offset [p] found found' := by
  have ahead {q : Place} {j : Nat} {mark : Nat × Place}
      (member : q ∈ (step p).filter (p.offset < ·.offset)) (path : Path step j q mark.2) :
      p.offset + 1 ≤ mark.2.offset ∧ Path step (j + 1) p mark.2 := by
    obtain ⟨there,later⟩ := List.mem_filter.mp member
    have later : p.offset < q.offset := by simpa using later
    exact ⟨Nat.le_trans later path.offset_le,q,⟨there,later⟩,path⟩
  have new : ∀ mark ∈ found', mark = (if bounded then n + 1 else 0,p) ∨ mark ∈ found ∨
      p.offset + 1 ≤ mark.2.offset ∧ ∃ j ≤ n + 1, Path step j p mark.2 := by
    intro mark member
    rcases List.mem_cons.mp (only' member) with same | member
    · exact .inl same
    · rcases deeper.reached mark member with old | ⟨q,there,j,few,path⟩
      · exact (List.mem_cons.mp (only old)).imp_right .inl
      · exact .inr (.inr ⟨(ahead there path).1,j + 1,Nat.succ_le_succ few,(ahead there path).2⟩)
  have kept : found ⊆ found' := List.Subset.trans (List.Subset.trans from' deeper.kept) all
  refine ⟨kept,by simpa using marked,?_,?_⟩
  · intro mark member
    rcases new mark member with rfl | old | ⟨_,path⟩
    · exact .inr ⟨p,List.mem_cons_self,0,Nat.zero_le _,rfl⟩
    · exact .inl old
    · exact .inr ⟨p,List.mem_cons_self,path⟩
  · intro settled
    -- A place that is marked before its rounds are taken is not settled yet, but it stands before
    -- all that is searched from it.
    have later := deeper.settled fun mark member late => by
      rcases List.mem_cons.mp (only member) with rfl | old
      · exact absurd late (Nat.not_succ_le_self _)
      · exact (settled mark old (Nat.le_of_succ_le late)).mono from'
    intro mark member late
    rcases new mark member with rfl | old | ⟨strictly,_⟩
    · intro j q path few
      cases j with
      | zero =>
        obtain rfl : q = p := path
        exact ⟨_,marked⟩
      | succ j =>
        obtain ⟨m,⟨there,strictly⟩,rest⟩ := path
        have next := deeper.marked m (List.mem_filter.mpr ⟨there,by simpa using strictly⟩)
        obtain ⟨i,found⟩ := later _ next strictly j q rest fun bound => by
          simpa [bound] using few bound
        exact ⟨i,all found⟩
    · exact (settled mark old late).mono kept
    · rcases List.mem_cons.mp (only' member) with rfl | there
      · exact absurd strictly (Nat.not_succ_le_self _)
      · exact (later mark there strictly).mono all

/-- The search settles the place that it begins at. Without a bound there have to be rounds enough
to get to the end of every path. -/
theorem explore_explored {n : Nat} {p : Place}
    (enough : bounded = true ∨ ∀ j q, Path step j p q → j ≤ n) (found : List (Nat × Place)) :
    Explored step bounded n p.offset [p] found (explore step bounded greedy n p found) := by
  induction n generalizing p found with
  | zero =>
    rw [explore]
    split
    · next old => exact explored_marked (by simpa using old)
    · refine ⟨List.subset_cons_self _ _,by simp,?_,?_⟩
      · intro mark member
        rcases List.mem_cons.mp member with rfl | old
        · exact .inr ⟨p,List.mem_cons_self,0,Nat.le_refl 0,rfl⟩
        · exact .inl old
      · intro settled mark member late
        rcases List.mem_cons.mp member with rfl | old
        · intro j q path few
          obtain rfl : j = 0 := Nat.le_zero.mp (enough.elim few (· j q path))
          obtain rfl : q = p := path
          exact ⟨0,List.mem_cons_self⟩
        · exact (settled mark old late).mono (List.subset_cons_self _ _)
  | succ n ih =>
    have deeper (before : List (Nat × Place)) : Explored step bounded n (p.offset + 1)
        ((step p).filter (p.offset < ·.offset)) before
        (((step p).filter (p.offset < ·.offset)).foldl
          (fun found q => explore step bounded greedy n q found) before) := by
      refine explored_foldl _ (fun q member => ?_) (fun q member found => ?_) before
      · simpa [Nat.succ_le_iff] using (List.mem_filter.mp member).2
      · obtain ⟨there,later⟩ := List.mem_filter.mp member
        exact ih (enough.imp_right fun short j r path =>
          Nat.le_of_succ_le_succ (short (j + 1) r ⟨q,⟨there,by simpa using later⟩,path⟩)) found
    rw [explore]
    by_cases old : (if bounded then n + 1 else 0,p) ∈ found
    · rw [if_pos (by simpa using old)]
      exact explored_marked old
    · rw [if_neg (by simpa using old)]
      cases greedy with
      | true =>
        exact explored_around (deeper found) List.mem_cons_self (List.Subset.refl _)
          (List.subset_cons_self _ _) (List.subset_cons_self _ _) (List.Subset.refl _)
      | false =>
        exact explored_around (deeper _) ((deeper _).kept List.mem_cons_self)
          (List.subset_cons_self _ _) (List.Subset.refl _) (List.Subset.refl _)
          (List.subset_cons_self _ _)

end

section
variable {step : Place → List Place} {bounded greedy : Bool} {p q : Place}

theorem mem_explore {n : Nat} (enough : bounded = true ∨ ∀ j q, Path step j p q → j ≤ n) :
    (∃ i, (i,q) ∈ explore step bounded greedy n p []) ↔ ∃ j ≤ n, Path step j p q := by
  have explored : Explored step bounded n p.offset [p] [] (explore step bounded greedy n p []) :=
    explore_explored enough []
  constructor
  · rintro ⟨i,member⟩
    rcases explored.reached _ member with none | ⟨_,only,path⟩
    · cases none
    · obtain rfl := List.mem_singleton.mp only
      exact path
  · rintro ⟨j,few,path⟩
    have settled := explored.settled (by simp) _ (explored.marked p List.mem_cons_self) (Nat.le_refl _)
    exact settled j q path fun bound => by simpa [bound] using few

variable (walks : ∀ p, ∀ q ∈ step p, ∃ cs, Walks cs p q)
include walks

/-- The text sets no bound of its own, as every round that counts takes a character. -/
theorem mem_upTo {most : Option Nat} : q ∈ upTo step greedy most p ↔
    ∃ n, (∀ top ∈ most, n ≤ top) ∧ Repeats (fun p q => q ∈ step p) n p q := by
  have listed {found : List (Nat × Place)} :
      q ∈ distinct (found.reverse.map (·.2)) ↔ ∃ i, (i,q) ∈ found := by simp [mem_distinct]
  have length {j : Nat} {q : Place} (path : Path step j p q) : j ≤ p.after.length + 1 :=
    Nat.le_succ_of_le (path.le_length walks)
  have taken {j : Nat} (path : Path step j p q) : Repeats (fun p q => q ∈ step p) j p q :=
    Repeats.imp (fun _ _ => And.left) path
  cases most with
  | none =>
    simp only [upTo]
    rw [listed,mem_explore (.inr fun _ _ => length)]
    constructor
    · rintro ⟨j,_,path⟩
      exact ⟨j,by simp,taken path⟩
    · rintro ⟨n,_,repeats⟩
      obtain ⟨j,_,path⟩ := exists_path walks repeats
      exact ⟨j,length path,path⟩
  | some top =>
    simp only [upTo]
    rw [listed,mem_explore (.inl rfl)]
    constructor
    · rintro ⟨j,few,path⟩
      exact ⟨j,by simpa using Nat.le_trans few (Nat.min_le_left ..),taken path⟩
    · rintro ⟨n,few,repeats⟩
      obtain ⟨j,fewer,path⟩ := exists_path walks repeats
      exact ⟨j,Nat.le_min.mpr ⟨Nat.le_trans fewer (few top rfl),length path⟩,path⟩

end

/-! Whole expressions. -/

theorem mem_run {r : Regex} (plain : r.isPlain = true) {p q : Place} : q ∈ run r p ↔ Leads r p q := by
  induction r generalizing p q with
  | empty => simp [run,Leads]
  | chars set => simp [run,Leads,next?_eq_some_iff]
  | seq a b iha ihb =>
    obtain ⟨left,right⟩ := Bool.and_eq_true_iff.mp plain
    simp [run,Leads,mem_distinct,iha left,ihb right]
  | alt a b iha ihb =>
    obtain ⟨left,right⟩ := Bool.and_eq_true_iff.mp plain
    simp [run,Leads,mem_distinct,iha left,ihb right]
  | repeated r least most greedy ih =>
    have same : (fun p q => q ∈ run r p) = Leads r :=
      funext fun p => funext fun q => propext (ih plain)
    have walks : ∀ p, ∀ q ∈ run r p, ∃ cs, Walks cs p q := fun p q member =>
      ((ih plain).mp member).walks
    simp only [run,Leads,mem_distinct,List.mem_flatMap,mem_times,List.mem_singleton,
      exists_eq_left,mem_upTo walks,same]
    constructor
    · rintro ⟨m,first,n,few,rest⟩
      refine ⟨least + n,Nat.le_add_right ..,fun top bound => ?_,repeats_add.mpr ⟨m,first,rest⟩⟩
      have := few (top - least) (by simp [Option.mem_def.mp bound])
      omega
    · rintro ⟨n,enough,few,taken⟩
      obtain ⟨k,rfl⟩ := Nat.exists_eq_add_of_le enough
      obtain ⟨m,first,rest⟩ := repeats_add.mp taken
      refine ⟨m,first,k,fun top bound => ?_,rest⟩
      obtain ⟨top',known,rfl⟩ := Option.map_eq_some_iff.mp bound
      have := few top' known
      omega
  | assertion a =>
    simp only [run,Leads]
    split <;> simp_all
  | group | look | reference | atomic => cases plain

/-- The search goes on from place to place. -/
theorem found_iff {r : Regex} {cs : List Char} {p : Place} (after : p.after = cs)
    (groups : p.groups = []) :
    found r cs p = true ↔ ∃ ds m q, Walks ds p m ∧ q ∈ run r m := by
  have here (p : Place) : (!(run r p).isEmpty) = true ↔ ∃ q, q ∈ run r p := by
    simp [List.eq_nil_iff_forall_not_mem]
  induction cs generalizing p with
  | nil =>
    rw [found,here]
    constructor
    · rintro ⟨q,member⟩
      exact ⟨[],p,q,walks_nil.mpr rfl,member⟩
    · rintro ⟨ds,m,q,walks,member⟩
      obtain ⟨rfl,_⟩ := List.append_eq_nil_iff.mp (walks.after.symm.trans after)
      obtain rfl := walks_nil.mp walks
      exact ⟨q,member⟩
  | cons c rest ih =>
    have step : Walks [c] p ⟨c :: p.before,rest,p.offset + 1,[]⟩ := ⟨after,rfl,rfl,groups.symm⟩
    rw [found,Bool.or_eq_true,here]
    refine (or_congr_right (ih (p := ⟨c :: p.before,rest,p.offset + 1,[]⟩) rfl rfl)).trans ?_
    constructor
    · rintro (⟨q,member⟩ | ⟨ds,m,q,walks,member⟩)
      · exact ⟨[],p,q,walks_nil.mpr rfl,member⟩
      · exact ⟨c :: ds,m,q,step.trans walks,member⟩
    · rintro ⟨ds,m,q,walks,member⟩
      cases ds with
      | nil =>
        obtain rfl := walks_nil.mp walks
        exact .inl ⟨q,member⟩
      | cons d ds =>
        obtain ⟨x,first,others⟩ := walks_append.mp (show Walks ([d] ++ ds) p m from walks)
        obtain ⟨rfl,_⟩ := List.cons.inj (first.after.symm.trans after)
        obtain rfl := first.unique step
        exact .inr ⟨ds,m,q,others,member⟩

/-- An expression matches if it leads on from some place in the text. -/
theorem isMatch_iff {r : Regex} (plain : r.isPlain = true) {text : String} :
    r.isMatch text = true ↔ ∃ cs p q, Walks cs (.start text.toList) p ∧ Leads r p q := by
  have search := found_iff (r := r) (p := .start text.toList) rfl rfl
  simp only [mem_run plain] at search
  exact search

end ApiReview.Regex
