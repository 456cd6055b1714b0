import ApiReview.Proofs.Inside
import ApiReview.Schema.Validator
import Mathlib.Data.List.Forall2
import Mathlib.Data.Option.Basic

/-! What is asked in validating. A keyword asks its schemas about the value itself or about parts of
it, and what it comes to depends on nothing but what they come to. -/
namespace ApiReview.Schema

/-- The schemas that a keyword asks about the value itself. -/
def Keyword.beside : Keyword → List Schema
  | .dependencies list => list.map Prod.snd
  | .allOf list | .anyOf list | .oneOf list => list
  | .not _ s => [s]
  | _ => []

/-- The schemas that a keyword asks about members or items of the value. -/
def Keyword.inside : Keyword → List Schema
  | .properties list => list.map Prod.snd
  | .patternProperties list => list.map Prod.snd
  | .members named matching rest => named.map Prod.snd ++ matching.map Prod.snd ++ [rest]
  | .onlyMembers named matching => named.map Prod.snd ++ matching.map Prod.snd
  | .items s | .restItems _ s => [s]
  | .firstItems list => list
  | _ => []

def beside : Schema → List Schema
  | .keywords list => list.flatMap Keyword.beside
  | _ => []

def inside : Schema → List Schema
  | .keywords list => list.flatMap Keyword.inside
  | _ => []

/-- A schema that is asked about a value. -/
structure Task where
  schema : Schema
  value : Json

namespace Task

/-- Steps on one value: to what a reference leads to, and to schemas that are asked beside. -/
inductive Stays (table : Array Schema) : Task → Task → Prop where
  | follow (i : Nat) (v : Json) : Stays table ⟨.reference i,v⟩ ⟨Validator.target table i,v⟩
  | beside {s t : Schema} (v : Json) : t ∈ s.beside → Stays table ⟨s,v⟩ ⟨t,v⟩

/-- Steps to a part of the value. -/
inductive Descends : Task → Task → Prop where
  | inside {s t : Schema} {v w : Json} : t ∈ s.inside → w.Child v → Descends ⟨s,v⟩ ⟨t,w⟩

def Steps (table : Array Schema) (a b : Task) : Prop := a.Stays table b ∨ a.Descends b

end Task

/-- Replaces the schemas in a keyword. -/
def Keyword.map (g : Schema → Schema) : Keyword → Keyword
  | .dependencies list => .dependencies (list.map (Prod.map id g))
  | .properties list => .properties (list.map (Prod.map id g))
  | .patternProperties list => .patternProperties (list.map (Prod.map id g))
  | .members named matching rest =>
    .members (named.map (Prod.map id g)) (matching.map (Prod.map id g)) (g rest)
  | .onlyMembers named matching =>
    .onlyMembers (named.map (Prod.map id g)) (matching.map (Prod.map id g))
  | .items s => .items (g s)
  | .firstItems list => .firstItems (list.map g)
  | .restItems first s => .restItems first (g s)
  | .allOf list => .allOf (list.map g)
  | .anyOf list => .anyOf (list.map g)
  | .oneOf list => .oneOf (list.map g)
  | .not source s => .not source (g s)
  | k => k

theorem Keyword.map_id (k : Keyword) : k.map id = k := by
  cases k <;> simp [map]

/-- A way to compare lists of faults that is kept where lists are put together. -/
structure Listwise (R : List Fault → List Fault → Prop) : Prop where
  refl : ∀ fs, R fs fs
  append : ∀ {fs fs' gs gs'}, R fs fs' → R gs gs' → R (fs ++ gs) (fs' ++ gs')

theorem Listwise.eq : Listwise Eq := ⟨fun _ => rfl,fun one two => one ▸ two ▸ rfl⟩

theorem Listwise.perm : Listwise List.Perm := ⟨.refl,.append⟩

/-- Two schemas come to the same for a value, each with a way to follow references. -/
structure Same (R : List Fault → List Fault → Prop) (f f' : Following) (s s' : Schema) (v : Json) :
    Prop where
  accepts : accepts f'.accepts s' v = accepts f.accepts s v
  faults : ∀ here, R (faults f s here v) (faults f' s' here v)

/-- Two schemas come to the same for all parts of a value. -/
def SameInside (R : List Fault → List Fault → Prop) (f f' : Following) (v : Json) (s s' : Schema) :
    Prop :=
  ∀ w : Json, w.Child v → Same R f f' s s' w

/-- Schemas under the same keys, in the same order. -/
inductive Keyed {κ : Type} (Q : Schema → Schema → Prop) :
    List (κ × Schema) → List (κ × Schema) → Prop where
  | nil : Keyed Q [] []
  | cons {k : κ} {s s' : Schema} {rest rest' : List (κ × Schema)} : Q s s' → Keyed Q rest rest' →
    Keyed Q ((k,s) :: rest) ((k,s') :: rest')

/-- Keywords that are one but for their schemas. Those that are asked about the value itself go
together in one way, those that are asked about parts of it in another one. -/
inductive Keyword.Paired (B I : Schema → Schema → Prop) : Keyword → Keyword → Prop where
  | constraint (c : Constraint) : Paired B I (.constraint c) (.constraint c)
  | required (names : List String) : Paired B I (.required names) (.required names)
  | dependencies {list list' : List (String × Schema)} : Keyed B list list' →
    Paired B I (.dependencies list) (.dependencies list')
  | properties {list list' : List (String × Schema)} : Keyed I list list' →
    Paired B I (.properties list) (.properties list')
  | patternProperties {list list' : List (Pattern × Schema)} : Keyed I list list' →
    Paired B I (.patternProperties list) (.patternProperties list')
  | members {named named' : List (String × Schema)} {matching matching' : List (Pattern × Schema)}
    {rest rest' : Schema} : Keyed I named named' → Keyed I matching matching' → I rest rest' →
    Paired B I (.members named matching rest) (.members named' matching' rest')
  | onlyMembers {named named' : List (String × Schema)}
    {matching matching' : List (Pattern × Schema)} : Keyed I named named' →
    Keyed I matching matching' → Paired B I (.onlyMembers named matching) (.onlyMembers named' matching')
  | noMembers : Paired B I .noMembers .noMembers
  | items {s s' : Schema} : I s s' → Paired B I (.items s) (.items s')
  | firstItems {list list' : List Schema} : List.Forall₂ I list list' →
    Paired B I (.firstItems list) (.firstItems list')
  | restItems (first : Nat) {s s' : Schema} : I s s' →
    Paired B I (.restItems first s) (.restItems first s')
  | noRestItems (first : Nat) : Paired B I (.noRestItems first) (.noRestItems first)
  | allOf {list list' : List Schema} : List.Forall₂ B list list' →
    Paired B I (.allOf list) (.allOf list')
  | anyOf {list list' : List Schema} : List.Forall₂ B list list' →
    Paired B I (.anyOf list) (.anyOf list')
  | oneOf {list list' : List Schema} : List.Forall₂ B list list' →
    Paired B I (.oneOf list) (.oneOf list')
  | not (source : Json) {s s' : Schema} : B s s' → Paired B I (.not source s) (.not source s')

section
variable {B B' I I' Q Q' : Schema → Schema → Prop}

theorem Keyed.imp {κ : Type} {list list' : List (κ × Schema)} (keyed : Keyed Q list list')
    (weaker : ∀ s s', Q s s' → Q' s s') : Keyed Q' list list' := by
  induction keyed with
  | nil => exact .nil
  | cons one _ ih => exact .cons (weaker _ _ one) ih

theorem Keyword.Paired.imp {k k' : Keyword} (paired : k.Paired B I k')
    (beside : ∀ s s', B s s' → B' s s') (inside : ∀ s s', I s s' → I' s s') :
    k.Paired B' I' k' := by
  cases paired with
  | constraint c => exact .constraint c
  | required names => exact .required names
  | dependencies keyed => exact .dependencies (keyed.imp beside)
  | properties keyed => exact .properties (keyed.imp inside)
  | patternProperties keyed => exact .patternProperties (keyed.imp inside)
  | members names patterns rest =>
    exact .members (names.imp inside) (patterns.imp inside) (inside _ _ rest)
  | onlyMembers names patterns => exact .onlyMembers (names.imp inside) (patterns.imp inside)
  | noMembers => exact .noMembers
  | items one => exact .items (inside _ _ one)
  | firstItems each => exact .firstItems (each.imp inside)
  | restItems first one => exact .restItems first (inside _ _ one)
  | noRestItems first => exact .noRestItems first
  | allOf each => exact .allOf (each.imp beside)
  | anyOf each => exact .anyOf (each.imp beside)
  | oneOf each => exact .oneOf (each.imp beside)
  | not source one => exact .not source (beside _ _ one)

variable {g : Schema → Schema}

theorem Keyed.of_map {κ : Type} {list : List (κ × Schema)}
    (each : ∀ s ∈ list.map Prod.snd, Q s (g s)) : Keyed Q list (list.map (Prod.map id g)) := by
  induction list with
  | nil => exact .nil
  | cons p rest ih =>
    obtain ⟨one,others⟩ := List.forall_mem_cons.mp each
    exact .cons one (ih others)

theorem forall₂_of_map {list : List Schema} (each : ∀ s ∈ list, Q s (g s)) :
    List.Forall₂ Q list (list.map g) :=
  List.forall₂_map_right_iff.mpr (List.forall₂_same.mpr each)

/-- A keyword goes with the one in which its schemas are replaced. -/
theorem Keyword.Paired.of_map {k : Keyword} (beside : ∀ s ∈ k.beside, B s (g s))
    (inside : ∀ s ∈ k.inside, I s (g s)) : k.Paired B I (k.map g) := by
  cases k with
  | constraint c => exact .constraint c
  | required names => exact .required names
  | dependencies list => exact .dependencies (.of_map beside)
  | properties list => exact .properties (.of_map inside)
  | patternProperties list => exact .patternProperties (.of_map inside)
  | members named matching rest =>
    obtain ⟨known,others⟩ := List.forall_mem_append.mp inside
    obtain ⟨names,patterns⟩ := List.forall_mem_append.mp known
    exact .members (.of_map names) (.of_map patterns) (others rest List.mem_cons_self)
  | onlyMembers named matching =>
    obtain ⟨names,patterns⟩ := List.forall_mem_append.mp inside
    exact .onlyMembers (.of_map names) (.of_map patterns)
  | noMembers => exact .noMembers
  | items s => exact .items (inside s List.mem_cons_self)
  | firstItems list => exact .firstItems (forall₂_of_map inside)
  | restItems first s => exact .restItems first (inside s List.mem_cons_self)
  | noRestItems first => exact .noRestItems first
  | allOf list => exact .allOf (forall₂_of_map beside)
  | anyOf list => exact .anyOf (forall₂_of_map beside)
  | oneOf list => exact .oneOf (forall₂_of_map beside)
  | not source s => exact .not source (beside s List.mem_cons_self)

end

theorem all_congr {α : Type} {list : List α} {p q : α → Bool} (same : ∀ a ∈ list, p a = q a) :
    list.all p = list.all q := by
  rw [Bool.eq_iff_iff,List.all_eq_true,List.all_eq_true]
  exact forall₂_congr fun a member => by rw [same a member]

section
variable {R : List Fault → List Fault → Prop} (like : Listwise R) {f f' : Following}

/-! Lists of schemas. -/

section
variable {list list' : List Schema} {v : Json}

theorem allAccept_same (each : List.Forall₂ (Same R f f' · · v) list list') :
    allAccept f'.accepts list' v = allAccept f.accepts list v := by
  induction each with
  | nil => rfl
  | cons one _ ih => rw [allAccept,allAccept,one.accepts,ih]

theorem anyAccepts_same (each : List.Forall₂ (Same R f f' · · v) list list') :
    anyAccepts f'.accepts list' v = anyAccepts f.accepts list v := by
  induction each with
  | nil => rfl
  | cons one _ ih => rw [anyAccepts,anyAccepts,one.accepts,ih]

theorem acceptCount_same (each : List.Forall₂ (Same R f f' · · v) list list') :
    acceptCount f'.accepts list' v = acceptCount f.accepts list v := by
  induction each with
  | nil => rfl
  | cons one _ ih => rw [acceptCount,acceptCount,one.accepts,ih]

include like in
theorem allFaults_same (each : List.Forall₂ (Same R f f' · · v) list list') (here : Pointer) :
    R (allFaults f list here v) (allFaults f' list' here v) := by
  induction each with
  | nil => exact like.refl []
  | cons one _ ih =>
    rw [allFaults,allFaults]
    exact like.append (one.faults here) ih

variable {vs : List Json} (items : ∀ w ∈ vs, w.Child v)
include items

theorem firstAccept_same (each : List.Forall₂ (SameInside R f f' v) list list') :
    firstAccept f'.accepts list' vs = firstAccept f.accepts list vs := by
  induction each generalizing vs with
  | nil => simp [firstAccept]
  | cons one _ ih =>
    cases vs with
    | nil => simp [firstAccept]
    | cons w vs =>
      obtain ⟨first,others⟩ := List.forall_mem_cons.mp items
      rw [firstAccept,firstAccept,(one w first).accepts,ih others]

include like in
theorem firstFaults_same (each : List.Forall₂ (SameInside R f f' v) list list') (here : Pointer)
    (i : Nat) : R (firstFaults f list here i vs) (firstFaults f' list' here i vs) := by
  induction each generalizing vs i with
  | nil => simpa [firstFaults] using like.refl []
  | cons one _ ih =>
    cases vs with
    | nil => simpa [firstFaults] using like.refl []
    | cons w vs =>
      obtain ⟨first,others⟩ := List.forall_mem_cons.mp items
      rw [firstFaults,firstFaults]
      exact like.append ((one w first).faults _) (ih others (i + 1))

omit items in
include like in
theorem itemFaults_same {check check' : Pointer → Json → List Fault}
    (each : ∀ w ∈ vs, ∀ here, R (check here w) (check' here w)) (here : Pointer) (i : Nat) :
    R (itemFaults check here i vs) (itemFaults check' here i vs) := by
  induction vs generalizing i with
  | nil => exact like.refl []
  | cons w rest ih =>
    obtain ⟨one,others⟩ := List.forall_mem_cons.mp each
    exact like.append (one _) (ih others (i + 1))

end

/-! Schemas under names and patterns. -/

section
variable {named named' : List (String × Schema)} {matching matching' : List (Pattern × Schema)}
  {ms : List (String × Json)}

theorem dependenciesAccept_same (keyed : Keyed (Same R f f' · · (.object ms)) named named') :
    dependenciesAccept f'.accepts named' ms = dependenciesAccept f.accepts named ms := by
  induction keyed with
  | nil => rfl
  | cons one _ ih => rw [dependenciesAccept,dependenciesAccept,one.accepts,ih]

include like in
theorem dependenciesFaults_same (keyed : Keyed (Same R f f' · · (.object ms)) named named')
    (here : Pointer) :
    R (dependenciesFaults f named here ms) (dependenciesFaults f' named' here ms) := by
  induction keyed with
  | nil => exact like.refl []
  | cons one _ ih =>
    rw [dependenciesFaults,dependenciesFaults]
    refine like.append ?_ ih
    split
    · exact one.faults here
    · exact like.refl []

theorem namedAccept_same (keyed : Keyed (SameInside R f f' (.object ms)) named named') :
    namedAccept f'.accepts named' ms = namedAccept f.accepts named ms := by
  induction keyed with
  | nil => rfl
  | @cons name s s' _ _ one _ ih =>
    rw [namedAccept,namedAccept,ih]
    cases found : Json.lookup name ms with
    | none => rfl
    | some v => rw [Option.all_some,Option.all_some,(one v (Json.child_of_lookup found)).accepts]

include like in
theorem namedFaults_same (keyed : Keyed (SameInside R f f' (.object ms)) named named')
    (here : Pointer) : R (namedFaults f named here ms) (namedFaults f' named' here ms) := by
  induction keyed with
  | nil => exact like.refl []
  | @cons name s s' _ _ one _ ih =>
    rw [namedFaults,namedFaults]
    refine like.append ?_ ih
    cases found : Json.lookup name ms with
    | none => exact like.refl []
    | some v => exact (one v (Json.child_of_lookup found)).faults _

include like in
theorem memberFaults_same {check check' : String → Json → List Fault}
    (each : ∀ m ∈ ms, R (check m.1 m.2) (check' m.1 m.2)) :
    R (memberFaults check ms) (memberFaults check' ms) := by
  induction ms with
  | nil => exact like.refl []
  | cons m rest ih =>
    obtain ⟨one,others⟩ := List.forall_mem_cons.mp each
    exact like.append one (ih others)

theorem matchingAccept_same (keyed : Keyed (SameInside R f f' (.object ms)) matching matching') :
    matchingAccept f'.accepts matching' ms = matchingAccept f.accepts matching ms := by
  induction keyed with
  | nil => rfl
  | @cons p s s' _ _ one _ ih =>
    rw [matchingAccept,matchingAccept,ih]
    exact congrArg (· && _) (all_congr fun m member =>
      congrArg (!p.matches m.1 || ·) (one m.2 (Json.child_of_member member)).accepts)

include like in
theorem matchingFaults_same (keyed : Keyed (SameInside R f f' (.object ms)) matching matching')
    (here : Pointer) : R (matchingFaults f matching here ms) (matchingFaults f' matching' here ms) := by
  induction keyed with
  | nil => exact like.refl []
  | @cons p s s' _ _ one _ ih =>
    rw [matchingFaults,matchingFaults]
    refine like.append (memberFaults_same like fun m member => ?_) ih
    by_cases hit : p.matches m.1 = true
    · simpa [hit] using (one m.2 (Json.child_of_member member)).faults _
    · simpa [hit] using like.refl []

variable {name : String} {v w : Json} (child : w.Child v)
include child

theorem nameAccepts?_same (keyed : Keyed (SameInside R f f' v) named named') :
    nameAccepts? f'.accepts named' name w = nameAccepts? f.accepts named name w := by
  induction keyed with
  | nil => rfl
  | cons one _ ih => rw [nameAccepts?,nameAccepts?,(one w child).accepts,ih]

theorem nameFaults?_same (keyed : Keyed (SameInside R f f' v) named named') (place : Pointer) :
    Option.Rel R (nameFaults? f named name place w) (nameFaults? f' named' name place w) := by
  induction keyed with
  | nil => exact .none
  | cons one _ ih =>
    rw [nameFaults?,nameFaults?]
    split
    · exact .some ((one w child).faults place)
    · exact ih

omit child in
include like in
theorem append?_same {fs fs' gs gs' : Option (List Fault)} (one : Option.Rel R fs fs')
    (two : Option.Rel R gs gs') : Option.Rel R (append? fs gs) (append? fs' gs') := by
  cases one with
  | none => exact two
  | some first =>
    cases two with
    | none => exact .some first
    | some second => exact .some (like.append first second)

theorem patternsAccept?_same (keyed : Keyed (SameInside R f f' v) matching matching') :
    patternsAccept? f'.accepts matching' name w = patternsAccept? f.accepts matching name w := by
  induction keyed with
  | nil => rfl
  | cons one _ ih => rw [patternsAccept?,patternsAccept?,(one w child).accepts,ih]

include like in
theorem patternsFaults?_same (keyed : Keyed (SameInside R f f' v) matching matching')
    (place : Pointer) : Option.Rel R (patternsFaults? f matching name place w)
      (patternsFaults? f' matching' name place w) := by
  induction keyed with
  | nil => exact .none
  | cons one _ ih =>
    rw [patternsFaults?,patternsFaults?]
    split
    · exact append?_same like (.some ((one w child).faults place)) ih
    · exact ih

end

/-! Keywords. -/

section
variable {named named' : List (String × Schema)} {matching matching' : List (Pattern × Schema)}

theorem rel_getD {fs fs' : Option (List Fault)} (rel : Option.Rel R fs fs') {gs gs' : List Fault}
    (others : R gs gs') : R (fs.getD gs) (fs'.getD gs') := by
  cases rel with
  | none => exact others
  | some one => exact one

theorem rel_isNone {fs fs' : Option (List Fault)} (rel : Option.Rel R fs fs') :
    fs'.isNone = fs.isNone := by
  cases rel <;> rfl

include like in
/-- What the schemas for a member's name come to, if there is one. -/
theorem known_same {v w : Json} (child : w.Child v)
    (names : Keyed (SameInside R f f' v) named named')
    (patterns : Keyed (SameInside R f f' v) matching matching') (name : String) (place : Pointer) :
    both? (nameAccepts? f'.accepts named' name w) (patternsAccept? f'.accepts matching' name w) =
      both? (nameAccepts? f.accepts named name w) (patternsAccept? f.accepts matching name w) ∧
    Option.Rel R
      (append? (nameFaults? f named name place w) (patternsFaults? f matching name place w))
      (append? (nameFaults? f' named' name place w) (patternsFaults? f' matching' name place w)) := by
  rw [nameAccepts?_same child names,patternsAccept?_same child patterns]
  exact ⟨rfl,append?_same like (nameFaults?_same child names place)
    (patternsFaults?_same like child patterns place)⟩

variable {k k' : Keyword} {v : Json}

include like in
theorem members_same {rest rest' : Schema} {ms : List (String × Json)}
    (names : Keyed (SameInside R f f' (.object ms)) named named')
    (patterns : Keyed (SameInside R f f' (.object ms)) matching matching')
    (others : SameInside R f f' (.object ms) rest rest') :
    keywordAccepts f'.accepts (.members named' matching' rest') (.object ms) =
      keywordAccepts f.accepts (.members named matching rest) (.object ms) ∧
    ∀ here, R (keywordFaults f (.members named matching rest) here (.object ms))
      (keywordFaults f' (.members named' matching' rest') here (.object ms)) := by
  have known (m) (member : m ∈ ms) :=
    known_same like (Json.child_of_member member) names patterns m.1
  have other (m) (member : m ∈ ms) := others m.2 (Json.child_of_member member)
  constructor
  · refine all_congr fun m member => ?_
    obtain ⟨name,w⟩ := m
    dsimp only
    rw [(known _ member .root).1,(other _ member).accepts]
  · intro here
    rw [keywordFaults,keywordFaults]
    exact memberFaults_same like fun m member =>
      rel_getD (known m member _).2 ((other m member).faults _)

include like in
theorem onlyMembers_same {ms : List (String × Json)}
    (names : Keyed (SameInside R f f' (.object ms)) named named')
    (patterns : Keyed (SameInside R f f' (.object ms)) matching matching') :
    keywordAccepts f'.accepts (.onlyMembers named' matching') (.object ms) =
      keywordAccepts f.accepts (.onlyMembers named matching) (.object ms) ∧
    ∀ here, R (keywordFaults f (.onlyMembers named matching) here (.object ms))
      (keywordFaults f' (.onlyMembers named' matching') here (.object ms)) := by
  have known (m) (member : m ∈ ms) :=
    known_same like (Json.child_of_member member) names patterns m.1
  constructor
  · refine all_congr fun m member => ?_
    obtain ⟨name,w⟩ := m
    dsimp only
    rw [(known _ member .root).1]
  · intro here
    let unexpected (others : List (String × Json)) : List Fault :=
      demand others.isEmpty here (.unexpectedMembers (others.map Prod.fst))
    rw [keywordFaults,keywordFaults]
    refine like.append (memberFaults_same like fun m member => ?_) ?_
    · exact rel_getD (known m member _).2 (like.refl [])
    · refine (congrArg (R · _) (congrArg unexpected (List.filter_congr fun m member => ?_))).mpr
        (like.refl _)
      exact (rel_isNone (known m member _).2).symm

include like in
/-- What a keyword comes to depends on what the schemas that it asks come to. -/
theorem keyword_same (paired : k.Paired (Same R f f' · · v) (SameInside R f f' v) k') :
    keywordAccepts f'.accepts k' v = keywordAccepts f.accepts k v ∧
      ∀ place, R (keywordFaults f k place v) (keywordFaults f' k' place v) := by
  cases paired with
  | constraint c => exact ⟨rfl,fun _ => like.refl _⟩
  | required names | noMembers | noRestItems first => cases v <;> exact ⟨rfl,fun _ => like.refl _⟩
  | dependencies keyed =>
    cases v with
    | object ms => exact ⟨dependenciesAccept_same keyed,dependenciesFaults_same like keyed⟩
    | _ => exact ⟨rfl,fun _ => like.refl _⟩
  | properties keyed =>
    cases v with
    | object ms => exact ⟨namedAccept_same keyed,namedFaults_same like keyed⟩
    | _ => exact ⟨rfl,fun _ => like.refl _⟩
  | patternProperties keyed =>
    cases v with
    | object ms => exact ⟨matchingAccept_same keyed,matchingFaults_same like keyed⟩
    | _ => exact ⟨rfl,fun _ => like.refl _⟩
  | members names patterns rest =>
    cases v with
    | object ms => exact members_same like names patterns rest
    | _ => exact ⟨rfl,fun _ => like.refl _⟩
  | onlyMembers names patterns =>
    cases v with
    | object ms => exact onlyMembers_same like names patterns
    | _ => exact ⟨rfl,fun _ => like.refl _⟩
  | items one =>
    cases v with
    | array vs =>
      have each (w) (inside : w ∈ vs) := one w (Json.child_of_item inside)
      exact ⟨all_congr fun w inside => (each w inside).accepts,
        fun place => itemFaults_same like (fun w inside => (each w inside).faults) place 0⟩
    | _ => exact ⟨rfl,fun _ => like.refl _⟩
  | restItems first one =>
    cases v with
    | array vs =>
      have each (w) (inside : w ∈ vs.drop first) :=
        one w (Json.child_of_item (List.mem_of_mem_drop inside))
      exact ⟨all_congr fun w inside => (each w inside).accepts,
        fun place => itemFaults_same like (fun w inside => (each w inside).faults) place first⟩
    | _ => exact ⟨rfl,fun _ => like.refl _⟩
  | firstItems each =>
    cases v with
    | array vs =>
      have items (w) (inside : w ∈ vs) : w.Child (.array vs) := Json.child_of_item inside
      exact ⟨firstAccept_same items each,fun place => firstFaults_same like items each place 0⟩
    | _ => exact ⟨rfl,fun _ => like.refl _⟩
  | allOf each => exact ⟨allAccept_same each,allFaults_same like each⟩
  | anyOf each =>
    have any := anyAccepts_same each
    refine ⟨any,fun place => ?_⟩
    rw [keywordFaults,keywordFaults,any]
    exact like.refl _
  | oneOf each =>
    have count := acceptCount_same each
    refine ⟨congrArg (· == 1) count,fun place => ?_⟩
    rw [keywordFaults,keywordFaults,count]
    exact like.refl _
  | not source one =>
    have denied := congrArg Bool.not one.accepts
    refine ⟨denied,fun place => ?_⟩
    rw [keywordFaults,keywordFaults,denied]
    exact like.refl _

end

include like in
/-- What a schema comes to depends on what the schemas that it asks come to, if it is no reference. -/
theorem keywords_same {list : List Keyword} {v : Json} {g : Schema → Schema}
    (here : ∀ s ∈ (Schema.keywords list).beside, Same R f f' s (g s) v)
    (parts : ∀ s ∈ (Schema.keywords list).inside, ∀ w, w.Child v → Same R f f' s (g s) w) :
    Same R f f' (.keywords list) (.keywords (list.map (·.map g))) v := by
  have each (k) (listed : k ∈ list) := keyword_same like (Keyword.Paired.of_map (k := k) (g := g)
    (fun s asked => here s (List.mem_flatMap.mpr ⟨k,listed,asked⟩))
    (fun s asked => parts s (List.mem_flatMap.mpr ⟨k,listed,asked⟩)))
  clear here parts
  constructor
  · rw [accepts,accepts]
    induction list with
    | nil => rfl
    | cons k rest ih =>
      obtain ⟨one,others⟩ := List.forall_mem_cons.mp each
      rw [List.map_cons,keywordsAccept,keywordsAccept,one.1,ih others]
  · intro place
    rw [faults,faults]
    induction list with
    | nil => exact like.refl []
    | cons k rest ih =>
      obtain ⟨one,others⟩ := List.forall_mem_cons.mp each
      rw [List.map_cons,keywordsFaults,keywordsFaults]
      exact like.append (one.2 place) (ih others)

include like in
/-- Without references it makes no difference how they are followed. -/
theorem Same.everything (v : Json) : Same R f f' .everything .everything v :=
  ⟨by simp [Schema.accepts],fun _ => by simpa [Schema.faults] using like.refl []⟩

include like in
theorem Same.nothing (v : Json) : Same R f f' .nothing .nothing v :=
  ⟨by simp [Schema.accepts],fun _ => by simpa [Schema.faults] using like.refl _⟩

end

end ApiReview.Schema
