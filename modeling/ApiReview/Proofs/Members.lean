import ApiReview.Proofs.Keywords

/-! The keywords on the members of objects. Where the members without a schema of their own are not
free, the keyword on them is applied in place of all three, which comes to the same. -/
namespace ApiReview.Schema
open Meaning

/-- The keywords that are read together. -/
def memberKeywords : List String := ["properties","patternProperties","additionalProperties"]

/-- The schemas that are for the members of a name in particular. -/
def schemasAt (ms : List (String × Json)) (name : String) : List Json :=
  (Json.lookup name (under ms "properties")).toList ++
    ((under ms "patternProperties").filter (finds ·.1 name)).map Prod.snd

section
variable {S : Setting} {inner : Uri} {ms : List (String × Json)} {given value : Json}
  {follow : Nat → Json → Bool} {sat : Json → Json → Prop} {o : Option Keyword}

theorem isOther_iff {name : String} : isOther ms name = true ↔ schemasAt ms name = [] := by
  simp [isOther,schemasAt]

/-! Which schemas are applied to which members. -/

theorem under_eq {name : String} (found : Json.lookup name ms = some given) :
    under ms name = given.fields := by simp [under,found]

theorem fields_nodup {v : Json} (plain : v.Plain) : (v.fields.map Prod.fst).Nodup := by
  cases v with
  | object fs => exact plain.distinct.1
  | _ => exact List.nodup_nil

theorem get?_iff {v w : Json} (plain : v.Plain) {name : String} :
    v.get? name = some w ↔ (name,w) ∈ v.fields := by
  cases v with
  | object fs => exact Json.lookup_eq_some_iff plain.distinct.1
  | _ => simp [Json.get?,Json.fields,Json.members?]

variable {Q : Json × Json → Prop}

theorem below_properties_iff (one : given.Plain) (two : value.Plain) :
    (∀ p ∈ below ms "properties" given value, Q p) ↔
      ∀ n ∈ value.fields, ∀ s, Json.lookup n.1 given.fields = some s → Q (s,n.2) := by
  simp only [below,List.mem_filterMap,Option.map_eq_some_iff]
  constructor
  · intro all n member s found
    exact all _ ⟨(n.1,s),Json.mem_of_lookup found,n.2,(get?_iff two).mpr member,rfl⟩
  · rintro all _ ⟨m,listed,v,found,rfl⟩
    exact all (m.1,v) ((get?_iff two).mp found) m.2 (Json.lookup_of_mem (fields_nodup one) listed)

theorem below_patternProperties_iff :
    (∀ p ∈ below ms "patternProperties" given value, Q p) ↔
      ∀ n ∈ value.fields, ∀ m ∈ given.fields, finds m.1 n.1 = true → Q (m.2,n.2) := by
  simp only [below,List.mem_flatMap,List.mem_map,List.mem_filter]
  constructor
  · intro all n member m listed hit
    exact all _ ⟨m,listed,n,⟨member,hit⟩,rfl⟩
  · rintro all _ ⟨m,listed,n,⟨member,hit⟩,rfl⟩
    exact all n member m listed hit

theorem below_additionalProperties_iff :
    (∀ p ∈ below ms "additionalProperties" given value, Q p) ↔
      ∀ n ∈ value.fields, isOther ms n.1 = true → isSchema given = true → Q (given,n.2) := by
  by_cases schema : isSchema given = true
  · simp only [below,schema,if_true,List.forall_mem_map,List.mem_filter,forall_const,and_imp]
  · simp [below,schema]

/-- All three keywords, member by member. -/
theorem below_members_iff (plain : (Json.object ms).Plain) (two : value.Plain) :
    (∀ m ∈ ms, m.1 ∈ memberKeywords → ∀ p ∈ below ms m.1 m.2 value, Q p) ↔
      ∀ n ∈ value.fields, (∀ s ∈ schemasAt ms n.1, Q (s,n.2)) ∧
        (isOther ms n.1 = true → ∀ given, Json.lookup "additionalProperties" ms = some given →
          isSchema given = true → Q (given,n.2)) := by
  have inside {m : String × Json} (member : m ∈ ms) : m.2.Plain :=
    Json.plain_hereditary.members plain m member
  constructor
  · intro all n listed
    have each {name : String} {given : Json} (found : Json.lookup name ms = some given) :=
      all (name,given) (Json.mem_of_lookup found)
    refine ⟨fun s known => ?_,fun other given found schema => ?_⟩
    · rcases List.mem_append.mp known with own | hit
      · have own := Option.mem_toList.mp own
        cases found : Json.lookup "properties" ms with
        | none => simp [under,found,Json.lookup] at own
        | some given =>
          rw [under_eq found] at own
          exact (below_properties_iff (inside (Json.mem_of_lookup found)) two).mp
            (each found (by simp [memberKeywords])) n listed s own
      · obtain ⟨m,kept,rfl⟩ := List.mem_map.mp hit
        obtain ⟨held,fits⟩ := List.mem_filter.mp kept
        cases found : Json.lookup "patternProperties" ms with
        | none => simp [under,found] at held
        | some given =>
          rw [under_eq found] at held
          exact below_patternProperties_iff.mp (each found (by simp [memberKeywords])) n listed m
            held fits
    · exact below_additionalProperties_iff.mp (each found (by simp [memberKeywords])) n listed other
        schema
  · rintro all ⟨name,given⟩ member key
    have found : Json.lookup name ms = some given := Json.lookup_of_mem plain.distinct.1 member
    simp only [memberKeywords,List.mem_cons,List.not_mem_nil,or_false] at key
    rcases key with rfl | rfl | rfl
    · refine (below_properties_iff (inside member) two).mpr fun n listed s own => ?_
      refine (all n listed).1 s (List.mem_append_left _ (Option.mem_toList.mpr ?_))
      rw [under_eq found]
      exact own
    · refine below_patternProperties_iff.mpr fun n listed m held hit => ?_
      refine (all n listed).1 m.2 (List.mem_append_right _ (List.mem_map.mpr ⟨m,?_,rfl⟩))
      rw [under_eq found]
      exact List.mem_filter.mpr ⟨held,hit⟩
    · exact below_additionalProperties_iff.mpr fun n listed other schema =>
        (all n listed).2 other given found schema

/-! What is read for the members of a name. -/

theorem named_reads {list : List (String × Json)} {fs : List (String × Schema)}
    (each : List.Forall₂ (ReadsField S inner) list fs) (name : String) :
    List.Forall₂ (Reads S inner) (Json.lookup name list).toList
      ((fs.find? (·.1 = name)).toList.map (·.2)) := by
  induction each with
  | nil => exact .nil
  | @cons m f _ _ one _ ih =>
    obtain ⟨k,v⟩ := m
    obtain ⟨l,s⟩ := f
    obtain ⟨rfl,reads⟩ := one
    by_cases same : l = name
    · simpa [Json.lookup,same] using reads
    · simpa [Json.lookup,same] using ih

theorem matching_reads {list : List (String × Json)} {fs : List (Pattern × Schema)}
    (each : List.Forall₂ (ReadsMatching S inner) list fs) (name : String) :
    List.Forall₂ (Reads S inner) ((list.filter (finds ·.1 name)).map Prod.snd)
      ((fs.filter (·.1.matches name)).map (·.2)) := by
  induction each with
  | nil => exact .nil
  | cons one _ ih =>
    obtain ⟨same,reads⟩ := one
    rw [List.filter_cons,List.filter_cons,same name]
    split
    · exact .cons reads ih
    · exact ih

variable {named : List (String × Schema)} {matching : List (Pattern × Schema)}

theorem schemasFor_reads (one : List.Forall₂ (ReadsField S inner) (under ms "properties") named)
    (two : List.Forall₂ (ReadsMatching S inner) (under ms "patternProperties") matching)
    (name : String) :
    List.Forall₂ (Reads S inner) (schemasAt ms name) (schemasFor named matching name) :=
  List.rel_append (named_reads one name) (matching_reads two name)

/-- A member is accepted if all schemas for its name hold, and where there is none, if members
without one are. -/
theorem known_getD_iff {name : String} {v : Json} {b : Bool} :
    (both? (nameAccepts? follow named name v) (patternsAccept? follow matching name v)).getD b =
      true ↔ (∀ s ∈ schemasFor named matching name, accepts follow s v = true) ∧
        (schemasFor named matching name = [] → b = true) := by
  rw [nameAccepts?_eq,patternsAccept?_eq,schemasFor]
  generalize (matching.filter (·.1.matches name)).map (·.2) = hits
  cases named.find? (·.1 = name) with
  | none => cases hits <;> simp [both?]
  | some m => cases hits <;> simp [both?]

theorem named_yields (yields : Yields
      (((Part.find? "properties" (partsOf S inner ms)).map (·.fields)).getD (pure [])) named) :
    List.Forall₂ (ReadsField S inner) (under ms "properties") named := by
  rw [find?_partsOf] at yields
  cases found : Json.lookup "properties" ms with
  | none =>
    rw [found] at yields
    rw [yields.pure]
    simp [under,found]
  | some given =>
    rw [found] at yields
    rw [under_eq found]
    exact fieldsOf_yields yields

theorem matching_yields (yields : Yields
      (((Part.find? "patternProperties" (partsOf S inner ms)).map matchingFields).getD (pure []))
      matching) :
    List.Forall₂ (ReadsMatching S inner) (under ms "patternProperties") matching := by
  rw [find?_partsOf] at yields
  cases found : Json.lookup "patternProperties" ms with
  | none =>
    rw [found] at yields
    rw [yields.pure]
    simp [under,found]
  | some given =>
    rw [found] at yields
    rw [under_eq found]
    exact matchingFields_yields yields

theorem isSchema_of_closed (closed : othersFree ms = false)
    (found : Json.lookup "additionalProperties" ms = some given) :
    given = .bool false ∨ ∃ fs, given = .object fs := by
  unfold othersFree at closed
  rw [found] at closed
  split at closed
  · next same => exact .inl (Option.some.inj same)
  · next fs same => exact .inr ⟨fs,Option.some.inj same⟩
  · cases closed

theorem all_known_iff (judged : Judged S inner ms value follow sat)
    (one : List.Forall₂ (ReadsField S inner) (under ms "properties") named)
    (two : List.Forall₂ (ReadsMatching S inner) (under ms "patternProperties") matching)
    (found : Json.lookup "additionalProperties" ms = some given) (schema : isSchema given = true)
    (rest : Json → Bool)
    (others : ∀ n ∈ value.fields, isOther ms n.1 = true → (rest n.2 = true ↔ sat given n.2)) :
    (∀ n ∈ value.fields, (both? (nameAccepts? follow named n.1 n.2)
      (patternsAccept? follow matching n.1 n.2)).getD (rest n.2) = true) ↔
      ∀ m ∈ ms, m.1 ∈ memberKeywords → ∀ p ∈ below ms m.1 m.2 value, sat p.1 p.2 := by
  have each := (below_members_iff judged.plainSchema judged.plainValue).mp
    fun m member _ => judged.inside m member
  rw [below_members_iff judged.plainSchema judged.plainValue]
  refine forall₂_congr fun n listed => ?_
  have reads := schemasFor_reads one two n.1
  have none : schemasFor named matching n.1 = [] ↔ isOther ms n.1 = true := by
    rw [isOther_iff,← List.length_eq_zero_iff,← reads.length_eq,List.length_eq_zero_iff]
  rw [known_getD_iff,forall₂_forall reads fun s known => (each n listed).1 s known,none]
  refine and_congr_right fun _ => forall_congr' fun other => ?_
  rw [others n listed other]
  simp [found,schema]

/-- What is applied in place of the three keywords comes to what all of them say. -/
theorem members_iff (judged : Judged S inner ms value follow sat) (closed : othersFree ms = false)
    (found : Json.lookup "additionalProperties" ms = some given)
    (yields : Yields (memberKeyword ms (partsOf S inner ms)
      (partOf S inner ("additionalProperties",given))) o) :
    Accepted follow value o ↔
      ∀ m ∈ ms, m.1 ∈ memberKeywords → ∀ p ∈ below ms m.1 m.2 value, sat p.1 p.2 := by
  have member := Json.mem_of_lookup found
  have inside := below_additionalProperties_iff.mp (judged.inside _ member)
  have free := below_additionalProperties_iff.mp (judged.free _ member)
  unfold memberKeyword at yields
  rw [if_neg (by simp [closed])] at yields
  obtain ⟨matching,two,later⟩ := yields.bind
  obtain ⟨named,one,last⟩ := later.bind
  clear yields later
  have two := matching_yields two
  have one := named_yields one
  split at last
  · next none =>
    obtain rfl : given = .bool false := none
    have known := all_known_iff judged one two found rfl (fun _ => false)
      fun n listed other => (free n listed other rfl false rfl).symm
    split at last
    · next absent =>
      simp only [find?_partsOf,Option.isNone_map,Bool.and_eq_true,Option.isNone_iff_eq_none] at absent
      simp only [under,absent,Option.map_none,Option.getD_none,List.forall₂_nil_left_iff] at one two
      rw [last.pure,accepted_some,← known,one,two]
      cases value <;> simp [keywordAccepts,Json.fields,Json.members?,both?,nameAccepts?,
        patternsAccept?,List.eq_nil_iff_forall_not_mem]
    · rw [last.pure,accepted_some,← known]
      cases value <;> simp [keywordAccepts,Json.fields,Json.members?]
  · next none =>
    have single : ∃ fs, given = .object fs := (isSchema_of_closed closed found).resolve_left none
    obtain ⟨fs,rfl⟩ := single
    obtain ⟨s,three,last⟩ := last.bind
    have known := all_known_iff judged one two found rfl (accepts follow s)
      fun n listed other => inside n listed other rfl s three
    rw [last.pure,accepted_some,← known]
    cases value <;> simp [keywordAccepts,Json.fields,Json.members?]

/-! Each keyword by itself, where the members without a schema of their own are free. -/

theorem namedAccept_iff {list : List (String × Schema)} {fs : List (String × Json)} :
    namedAccept follow list fs = true ↔ ∀ f ∈ list, ∀ v, Json.lookup f.1 fs = some v →
      accepts follow f.2 v = true := by
  induction list with
  | nil => simp [namedAccept]
  | cons f rest ih =>
    cases here : Json.lookup f.1 fs <;> simp [namedAccept,ih,here]

theorem matchingAccept_iff {list : List (Pattern × Schema)} {fs : List (String × Json)} :
    matchingAccept follow list fs = true ↔ ∀ f ∈ list, ∀ n ∈ fs, f.1.matches n.1 = true →
      accepts follow f.2 n.2 = true := by
  induction list with
  | nil => simp [matchingAccept]
  | cons f rest ih =>
    rw [List.forall_mem_cons,← ih]
    simp [matchingAccept,or_iff_not_imp_left]

theorem properties_iff (judged : Judged S inner ms value follow sat)
    (member : ("properties",given) ∈ ms)
    (yields : Yields (do return some (.properties (← fieldsOf S inner given))) o) :
    Accepted follow value o ↔ Says ms "properties" given value .ordered sat := by
  obtain ⟨fs,one,last⟩ := yields.bind
  have pairs (Q : Json × Json → Prop) : (∀ p ∈ below ms "properties" given value, Q p) ↔
      ∀ m ∈ given.fields, ∀ v, value.get? m.1 = some v → Q (m.2,v) := by
    simp only [below,List.mem_filterMap,Option.map_eq_some_iff]
    constructor
    · exact fun all m listed v found => all _ ⟨m,listed,v,found,rfl⟩
    · rintro all _ ⟨m,listed,v,found,rfl⟩
      exact all m listed v found
  have inside := (pairs _).mp (judged.inside _ member)
  rw [last.pure,accepted_some]
  change _ ↔ ∀ p ∈ below ms "properties" given value, sat p.1 p.2
  rw [pairs]
  cases value with
  | object ns =>
    rw [keywordAccepts,namedAccept_iff]
    refine forall₂_forall (fieldsOf_yields one) ?_
    rintro m listed f ⟨same,reads⟩
    rw [same]
    exact forall₂_congr fun v found => inside m listed v found f.2 reads
  | _ => simp [keywordAccepts,Json.get?]

theorem patternProperties_iff (judged : Judged S inner ms value follow sat)
    (member : ("patternProperties",given) ∈ ms) (yields : Yields (do
      return some (.patternProperties
        (← matchingFields (partOf S inner ("patternProperties",given))))) o) :
    Accepted follow value o ↔ Says ms "patternProperties" given value .ordered sat := by
  obtain ⟨fs,one,last⟩ := yields.bind
  have inside := below_patternProperties_iff.mp (judged.inside _ member)
  rw [last.pure,accepted_some]
  change _ ↔ ∀ p ∈ below ms "patternProperties" given value, sat p.1 p.2
  rw [below_patternProperties_iff]
  cases value with
  | object ns =>
    rw [keywordAccepts,matchingAccept_iff]
    have each : (∀ f ∈ fs, ∀ n ∈ ns, f.1.matches n.1 = true → accepts follow f.2 n.2 = true) ↔
        ∀ m ∈ given.fields, ∀ n ∈ ns, finds m.1 n.1 = true → sat m.2 n.2 := by
      refine forall₂_forall (matchingFields_yields one) ?_
      rintro m listed f ⟨same,reads⟩
      refine forall₂_congr fun n held => ?_
      rw [same n.1]
      exact forall_congr' fun hit => inside n held m listed hit f.2 reads
    rw [each]
    exact ⟨fun all n held m listed => all m listed n held,
      fun all m listed n held => all n held m listed⟩
  | _ => simp [keywordAccepts,Json.fields,Json.members?]

theorem additionalProperties_iff (judged : Judged S inner ms value follow sat)
    (member : ("additionalProperties",given) ∈ ms) (open' : othersFree ms = true)
    (yields : Yields (memberKeyword ms (partsOf S inner ms)
      (partOf S inner ("additionalProperties",given))) o) :
    Accepted follow value o ↔ Says ms "additionalProperties" given value .ordered sat := by
  have free := below_additionalProperties_iff.mp (judged.free _ member)
  have found := Json.lookup_of_mem judged.plainSchema.distinct.1 member
  unfold memberKeyword at yields
  rw [if_pos open'] at yields
  rw [yields.pure]
  refine iff_of_true accepted_none (below_additionalProperties_iff.mpr fun n listed other schema => ?_)
  unfold othersFree at open'
  rw [found] at open'
  cases given with
  | bool b =>
    cases b with
    | true => exact (free n listed other rfl true rfl).mpr rfl
    | false => cases open'
  | object fs => cases open'
  | _ => cases schema

end

end ApiReview.Schema
