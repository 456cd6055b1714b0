import ApiReview.Proofs.Members

/-! Schemas as they are applied, and what they mean. -/
namespace ApiReview.Schema
open Meaning

section
variable {S : Setting} {inner : Uri} {ms : List (String × Json)} {name : String} {given value : Json}
  {follow : Nat → Json → Bool} {sat : Json → Json → Prop} {o : Option Keyword}

theorem keyword_iff (judged : Judged S inner ms value follow sat) (member : (name,given) ∈ ms)
    (aside : othersFree ms = true ∨ name ∉ memberKeywords)
    (yields : Yields (keyword false ms (partsOf S inner ms) (partOf S inner (name,given))) o) :
    Accepted follow value o ↔ Says ms name given value .ordered sat := by
  have plain := Json.plain_hereditary.members judged.plainSchema _ member
  have whole := judged.plainValue.whole
  unfold keyword at yields
  dsimp only [partOf] at yields
  split at yields
  case h_1 => exact type_iff yields
  case h_2 => exact enum_iff plain.whole whole yields
  case h_3 | h_4 => exact limit_iff plain.whole whole yields
  case h_5 => exact multipleOf_iff plain.whole whole yields
  case h_6 | h_7 | h_8 | h_9 | h_10 | h_11 =>
    rw [size_iff yields]
    cases value <;> simp [Says,Measure.of?,Keeps,AtLeast,AtMost]
  case h_12 => exact pattern_iff yields
  case h_13 =>
    have silent : o = none := by
      split at yields
      · exact yields.pure
      · exact yields.pure
    rw [silent]
    exact iff_of_true accepted_none (says_format ms given value .ordered sat)
  case h_14 => exact different_iff whole yields
  case h_15 => exact required_iff yields
  case h_16 => exact dependencies_iff judged member yields
  case h_17 =>
    have free := aside.resolve_right (by simp [memberKeywords])
    rw [if_pos free] at yields
    exact properties_iff judged member yields
  case h_18 =>
    have free := aside.resolve_right (by simp [memberKeywords])
    rw [if_pos free] at yields
    exact patternProperties_iff judged member yields
  case h_19 =>
    have free := aside.resolve_right (by simp [memberKeywords])
    exact additionalProperties_iff judged member free yields
  case h_20 => exact items_iff judged member yields
  case h_21 => exact additionalItems_iff judged member yields
  case h_22 => exact allOf_iff judged member yields
  case h_23 => exact anyOf_iff judged member yields
  case h_24 => exact oneOf_iff judged member yields
  case h_25 => exact not_iff judged member yields
  case h_26 =>
    rw [yields.pure]
    refine iff_of_true accepted_none ?_
    unfold Says below
    simp [*]

theorem says_member (key : name ∈ memberKeywords) :
    Says ms name given value .ordered sat ↔ ∀ p ∈ below ms name given value, sat p.1 p.2 := by
  simp only [memberKeywords,List.mem_cons,List.not_mem_nil,or_false] at key
  rcases key with rfl | rfl | rfl <;> exact Iff.rfl

theorem found_of_closed (closed : othersFree ms = false) :
    ∃ given, Json.lookup "additionalProperties" ms = some given := by
  unfold othersFree at closed
  split at closed
  · next found => exact ⟨_,found⟩
  · next found => exact ⟨_,found⟩
  · cases closed

/-- Where members without a schema of their own are not free, the keyword on them is applied in
place of all that are read together. -/
theorem closed_keyword_iff (judged : Judged S inner ms value follow sat)
    (member : (name,given) ∈ ms) (closed : othersFree ms = false)
    (yields : Yields (keyword false ms (partsOf S inner ms) (partOf S inner (name,given))) o) :
    Accepted follow value o ↔ (name ∉ memberKeywords → Says ms name given value .ordered sat) ∧
      (name = "additionalProperties" → ∀ m ∈ ms, m.1 ∈ memberKeywords →
        Says ms m.1 m.2 value .ordered sat) := by
  by_cases key : name ∈ memberKeywords
  · have nothing (silent : o = none) (other : name ≠ "additionalProperties") :
        Accepted follow value o ↔ (name ∉ memberKeywords → Says ms name given value .ordered sat) ∧
          (name = "additionalProperties" → ∀ m ∈ ms, m.1 ∈ memberKeywords →
            Says ms m.1 m.2 value .ordered sat) := by
      simp [silent,key,other]
    have names := key
    simp only [memberKeywords,List.mem_cons,List.not_mem_nil,or_false] at names
    rcases names with rfl | rfl | rfl
    · change Yields (if othersFree ms then _ else pure none) o at yields
      rw [if_neg (by simp [closed])] at yields
      exact nothing yields.pure (by decide)
    · change Yields (if othersFree ms then _ else pure none) o at yields
      rw [if_neg (by simp [closed])] at yields
      exact nothing yields.pure (by decide)
    · have found := Json.lookup_of_mem judged.plainSchema.distinct.1 member
      rw [members_iff judged closed found yields]
      simp only [key,not_true_eq_false,false_imp_iff,true_and,forall_const]
      exact forall₃_congr fun m member key => (says_member key).symm
  · rw [keyword_iff judged member (.inr key) yields]
    have other : name ≠ "additionalProperties" := by
      rintro rfl
      exact key (by simp [memberKeywords])
    simp [key,other]

/-- What is read for the members of a schema is accepted if all of them hold. -/
theorem keywords_iff (judged : Judged S inner ms value follow sat) {found : List (Option Keyword)}
    (yields : Yields ((partsOf S inner ms).mapM (keyword false ms (partsOf S inner ms))) found) :
    accepts follow (.keywords (found.filterMap id)) value = true ↔
      ∀ m ∈ ms, Says ms m.1 m.2 value .ordered sat := by
  have each : List.Forall₂ (fun m o =>
      Yields (keyword false ms (partsOf S inner ms) (partOf S inner m)) o) ms found := by
    have parts := yields.mapM
    rw [partsOf_eq] at parts ⊢
    rwa [List.forall₂_map_left_iff] at parts
  have accepted : accepts follow (.keywords (found.filterMap id)) value = true ↔
      ∀ o ∈ found, Accepted follow value o := by
    rw [accepts,keywordsAccept_iff]
    simp only [List.mem_filterMap,id_eq,Accepted]
    constructor
    · exact fun all o listed k same => all k ⟨o,listed,same⟩
    · rintro all k ⟨o,listed,same⟩
      exact all o listed k same
  rw [accepted]
  cases free : othersFree ms with
  | true => exact forall₂_forall each fun m member o => keyword_iff judged member (.inl free)
  | false =>
    obtain ⟨given,there⟩ := found_of_closed free
    rw [forall₂_forall each fun m member o => closed_keyword_iff judged member free]
    constructor
    · intro all m member
      by_cases key : m.1 ∈ memberKeywords
      · exact (all _ (Json.mem_of_lookup there)).2 rfl m member key
      · exact (all m member).1 key
    · exact fun all m member => ⟨fun _ => all m member,fun _ m member _ => all m member⟩

end

/-- Following a place of the table tells whether what its identifier leads to holds, at least in all
questions that come up in answering one. -/
def Follows (r : Resources) (keys : List Uri) (follow : Nat → Json → Bool) (q : Question) : Prop :=
  ∀ (i : Nat) uri t v, keys[i]? = some uri → r.target uri = .ok t →
    Further r q ⟨t.base,t.schema,v⟩ →
      (follow i v = true ↔ Holds r .ordered ⟨t.base,t.schema,v⟩)

section
variable {r : Resources} {keys : List Uri} {follow : Nat → Json → Bool}

/-- What is read of a schema accepts what satisfies it. The induction is on the schema: what a
reference leads to is for the table. -/
theorem accepts_iff (all : r.All Json.Plain)
    (led : ∀ (i : Nat) uri, keys[i]? = some uri → ∃ t, r.target uri = .ok t) {q : Question}
    (plainSchema : q.schema.Plain) (plainValue : q.value.Plain) (ends : Ends r q)
    (follows : Follows r keys follow q) {s : Schema}
    (reads : Reads (finished keys) q.base q.schema s) :
    accepts follow s q.value = true ↔ Holds r .ordered q := by
  induction n : q.schema.depth using Nat.strongRecOn generalizing q s with
  | ind n ih =>
    subst n
    rw [ends.holds_iff]
    -- The schemas inside are less deep; what a reference leads to need not be, and is left to the table.
    have inner {q' : Question} (rest : q' ∈ q.rests r) (deeper : q'.schema.depth < q.schema.depth)
        {s : Schema} (reads : Reads (finished keys) q'.base q'.schema s) :
        accepts follow s q'.value = true ↔ Holds r .ordered q' :=
      ih _ deeper (Question.rests_schema Json.plain_hereditary all plainSchema rest)
        (Question.rests_value Json.plain_hereditary plainValue rest) (ends.inv rest)
        (fun i uri t v known target further => follows i uri t v known target (.head rest further))
        reads rfl
    obtain ⟨base,schema,value⟩ := q
    dsimp only at *
    unfold Reads ofJson at reads
    split at reads
    · rw [reads.pure]
      simp [accepts,Question.Says]
    · rw [reads.pure]
      simp [accepts,Question.Says]
    · next ms =>
      split at reads
      · next ref plain =>
        obtain ⟨text,one,later⟩ := reads.bind
        obtain ⟨i,two,last⟩ := later.bind
        obtain rfl := stringOf_yields one
        obtain ⟨uri,resolved,known⟩ := lookUp_yields two
        obtain ⟨t,target⟩ := led i uri known
        have found : referred? r base (.string text) = some t :=
          Success.toOption_iff.mpr (Success.bind_iff.mpr ⟨uri,resolved,target⟩)
        have rest : ⟨t.base,t.schema,value⟩ ∈ (⟨base,.object ms,value⟩ : Question).rests r := by
          simp [Question.rests,Question.stays,plain,found]
        rw [last.pure,accepts,follows i uri t value known target (.single rest)]
        simp [Question.Says,plain,found]
      · next plain =>
        obtain ⟨home,one,later⟩ := reads.bind
        obtain ⟨found,two,last⟩ := later.bind
        have home' := one.lift
        have judged : Judged (finished keys) home ms value follow
            fun s v => Holds r .ordered ⟨home,s,v⟩ := by
          have stays {m s} (member : m ∈ ms) (asked : s ∈ applied m.1 m.2 value) :
              ⟨home,s,value⟩ ∈ (⟨base,.object ms,value⟩ : Question).rests r :=
            List.mem_append_left _ ((mem_stays plain home').mpr ⟨m,member,s,asked,rfl⟩)
          have descends {m p} (member : m ∈ ms) (asked : p ∈ below ms m.1 m.2 value) :
              ⟨home,p.1,p.2⟩ ∈ (⟨base,.object ms,value⟩ : Question).rests r :=
            List.mem_append_right _ ((mem_descends plain home').mpr ⟨m,member,p,asked,rfl⟩)
          refine ⟨plainSchema,plainValue,fun m member s asked c reads => ?_,
            fun m member p asked c reads => ?_,fun m member p asked b same => ?_⟩
          · exact inner (stays member asked) (Within.depth_lt (applied_within asked) member) reads
          · exact inner (descends member asked) (Within.depth_lt (below_within asked).1 member) reads
          · rw [Ends.holds_iff (ends.inv (descends member asked))]
            simp [Question.Says,same]
        rw [last.pure,keywords_iff judged two]
        simp [Question.Says,plain,home']
    · exact absurd reads Yields.refuse

end

end ApiReview.Schema
