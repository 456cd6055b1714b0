import ApiReview.Proofs.Inside
import Mathlib.Logic.Relation
import Mathlib.Order.WellFounded

/-! What schemas mean, said keyword by keyword and without a word on how values are checked. Schemas
may refer to themselves and deny, so that no least relation is the meaning; it is built from the
questions that a question rests on, and is there unless they go round in a circle. -/
namespace ApiReview

namespace Json

/-- The whole number that is written. -/
def whole? : Json → Option Int
  | .number (.integer i _) => some i
  | _ => none

def texts (v : Json) : List String := v.elements.filterMap string?

mutual

/-- Equal, in whatever order members stand. -/
def alike : Json → Json → Bool
  | .null, .null => true
  | .bool a, .bool b => a == b
  | .number a, .number b => a.units == b.units
  | .string a, .string b => a == b
  | .array a, .array b => alikeItems a b
  | .object a, .object b => a.length == b.length && alikeMembers a b
  | _, _ => false

def alikeItems : List Json → List Json → Bool
  | [], [] => true
  | a :: as, b :: bs => alike a b && alikeItems as bs
  | _, _ => false

def alikeMembers : List (String × Json) → List (String × Json) → Bool
  | [], _ => true
  | (k,v) :: rest, ms => ((lookup k ms).any fun w => alike v w) && alikeMembers rest ms

end

end Json

/-- The whole number that is the double nearest to a whole number. -/
def Binary64.nearest (i : Int) : Int := ((ofInt? i).getD (.zero false)).units / twoTo 1074

namespace Meaning
open Schema

/-- Which values count as equal, and which whole numbers as multiples of which. -/
structure Comparison where
  equal : Json → Json → Prop
  multiple : Int → Int → Prop

namespace Comparison

/-- As the draft has it. -/
def draft : Comparison := ⟨fun v w => v.alike w = true,fun divisor n => divisor ∣ n⟩

/-- Members count in their order, and in place of whole numbers the doubles nearest to them. -/
def ordered : Comparison := ⟨fun v w => v = w,fun divisor n =>
  Binary64.nearest divisor ≠ 0 ∧ Binary64.nearest divisor ∣ Binary64.nearest n⟩

end Comparison

/-- What the names of kinds say of a value. -/
def IsA (kind : String) (v : Json) : Prop :=
  match kind with
  | "array" => ∃ vs, v = .array vs
  | "boolean" => ∃ b, v = .bool b
  | "integer" => ∃ i, v.whole? = some i
  | "null" => v = .null
  | "number" => ∃ n, v = .number n
  | "object" => ∃ ms, v = .object ms
  | "string" => ∃ s, v = .string s
  | _ => False

/-- One name, or several in a list. -/
def namesIn : Json → List String
  | .string s => [s]
  | v => v.texts

/-- Whether a pattern is found in a text. -/
def finds (pattern text : String) : Bool := (Regex.read? pattern).any (·.isMatch text)

/-- One item of a list has a property, and no other one. -/
def ExactlyOne {α : Type} (P : α → Prop) : List α → Prop
  | [] => False
  | a :: rest => P a ∧ (∀ b ∈ rest, ¬ P b) ∨ ¬ P a ∧ ExactlyOne P rest

theorem exactlyOne_congr {α : Type} {P Q : α → Prop} {list : List α}
    (same : ∀ a ∈ list, P a ↔ Q a) : ExactlyOne P list ↔ ExactlyOne Q list := by
  induction list with
  | nil => exact Iff.rfl
  | cons a rest ih =>
    have first := same a List.mem_cons_self
    have later (b : α) (member : b ∈ rest) := same b (List.mem_cons_of_mem a member)
    exact or_congr (and_congr first (forall₂_congr fun b member => not_congr (later b member)))
      (and_congr (not_congr first) (ih later))

def AtLeast (given : Json) (n : Nat) : Prop := ∀ low, given.whole? = some low → low ≤ n

def AtMost (given : Json) (n : Nat) : Prop := ∀ high, given.whole? = some high → (n : Int) ≤ high

def isSchema : Json → Bool
  | .bool _ | .object _ => true
  | _ => false

section
variable (ms : List (String × Json)) (name : String) (given value : Json)

/-- What stands by name under a keyword of a schema. -/
def under (keyword : String) : List (String × Json) :=
  ((Json.lookup keyword ms).map Json.fields).getD []

/-- Whether no schema is for the members of a name in particular. -/
def isOther (name : String) : Bool := (Json.lookup name (under ms "properties")).isNone &&
  (under ms "patternProperties").all fun p => !finds p.1 name

/-- The schemas that a keyword applies to the value itself. -/
def applied : List Json :=
  match name with
  | "allOf" | "anyOf" | "oneOf" => given.elements
  | "not" => [given]
  | "dependencies" =>
    (given.fields.filter fun m => (value.get? m.1).isSome && m.2.items?.isNone).map Prod.snd
  | _ => []

/-- The schemas that a keyword applies to parts of the value, each with its part. -/
def below : List (Json × Json) :=
  match name with
  | "properties" => given.fields.filterMap fun m => (value.get? m.1).map (m.2,·)
  | "patternProperties" => given.fields.flatMap fun p =>
    (value.fields.filter (finds p.1 ·.1)).map fun m => (p.2,m.2)
  | "additionalProperties" =>
    if isSchema given then (value.fields.filter (isOther ms ·.1)).map fun m => (given,m.2) else []
  | "items" => match given with
    | .array list => list.zip value.elements
    | _ => value.elements.map (given,·)
  | "additionalItems" => match Json.lookup "items" ms with
    | some (.array list) =>
      if isSchema given then (value.elements.drop list.length).map (given,·) else []
    | _ => []
  | _ => []

/-- What a keyword with what is given for it says of a value, where `sat` tells which values
satisfy the schemas inside. Formats say nothing, nor do names that are not known. -/
def Says (c : Comparison) (sat : Json → Json → Prop) : Prop :=
  match name with
  | "type" => ∃ kind ∈ namesIn given, IsA kind value
  | "enum" => ∃ v ∈ given.elements, c.equal v value
  | "minimum" => ∀ low n, given.whole? = some low → value.whole? = some n →
    if isTrue "exclusiveMinimum" ms then low < n else low ≤ n
  | "maximum" => ∀ high n, given.whole? = some high → value.whole? = some n →
    if isTrue "exclusiveMaximum" ms then n < high else n ≤ high
  | "multipleOf" => ∀ divisor n, given.whole? = some divisor → value.whole? = some n →
    c.multiple divisor n
  | "minLength" => ∀ s, value = .string s → AtLeast given s.length
  | "maxLength" => ∀ s, value = .string s → AtMost given s.length
  | "minItems" => ∀ vs, value = .array vs → AtLeast given vs.length
  | "maxItems" => ∀ vs, value = .array vs → AtMost given vs.length
  | "minProperties" => ∀ fs, value = .object fs → AtLeast given fs.length
  | "maxProperties" => ∀ fs, value = .object fs → AtMost given fs.length
  | "pattern" => ∀ p s, given = .string p → value = .string s → finds p s = true
  | "uniqueItems" => ∀ vs, given = .bool true → value = .array vs →
    vs.Pairwise fun v w => ¬ c.equal v w
  | "required" => ∀ fs, value = .object fs →
    ∀ member ∈ given.texts, (Json.lookup member fs).isSome = true
  | "dependencies" => (∀ m ∈ given.fields, (value.get? m.1).isSome = true →
      ∀ member ∈ m.2.texts, (value.get? member).isSome = true) ∧
    ∀ s ∈ applied "dependencies" given value, sat s value
  | "allOf" => ∀ s ∈ given.elements, sat s value
  | "anyOf" => ∃ s ∈ given.elements, sat s value
  | "oneOf" => ExactlyOne (sat · value) given.elements
  | "not" => ¬ sat given value
  | _ => ∀ p ∈ below ms name given value, sat p.1 p.2

theorem says_format (c : Comparison) (sat : Json → Json → Prop) :
    Says ms "format" given value c sat := by
  simp [Says,below]

/-- A keyword looks at nothing but the schemas that it applies. -/
theorem says_congr {c : Comparison} {sat sat' : Json → Json → Prop}
    (here : ∀ s ∈ applied name given value, sat s value ↔ sat' s value)
    (inside : ∀ p ∈ below ms name given value, sat p.1 p.2 ↔ sat' p.1 p.2) :
    Says ms name given value c sat ↔ Says ms name given value c sat' := by
  unfold Says
  split
  case h_15 => exact and_congr_right fun _ => forall₂_congr here
  case h_16 => exact forall₂_congr here
  case h_17 => exact exists_congr fun s => and_congr_right (here s)
  case h_18 => exact exactlyOne_congr here
  case h_19 => exact not_congr (here given (by simp [applied]))
  case h_20 => exact forall₂_congr inside
  all_goals exact Iff.rfl

end

/-- Whether a value satisfies a schema that is read at a base. -/
structure Question where
  base : Uri
  schema : Json
  value : Json

/-- What a reference leads to, if it leads to anything. -/
def referred? (r : Resources) (base : Uri) : Json → Option Target
  | .string text => ((resolve base text).bind r.target).toOption
  | _ => none

namespace Question
variable (r : Resources) (q : Question)

/-- What the schema of a question says of its value, where `sat` tells which questions are answered
with yes. A reference stands for all of the schema. -/
def Says (c : Comparison) (sat : Question → Prop) : Prop :=
  match q.schema with
  | .bool b => b = true
  | .object ms => match Json.lookup "$ref" ms with
    | some ref => ∃ t, referred? r q.base ref = some t ∧ sat ⟨t.base,t.schema,q.value⟩
    | none => ∃ inner, baseWithin q.base ms = .ok inner ∧ ∀ m ∈ ms,
      Meaning.Says ms m.1 m.2 q.value c fun s v => sat ⟨inner,s,v⟩
  | _ => False

/-- The questions on the same value that a question rests on. -/
def stays : List Question :=
  match q.schema with
  | .object ms => match Json.lookup "$ref" ms with
    | some ref => (referred? r q.base ref).toList.map fun t => ⟨t.base,t.schema,q.value⟩
    | none => (baseWithin q.base ms).toOption.toList.flatMap fun inner =>
      (ms.flatMap fun m => applied m.1 m.2 q.value).map (⟨inner,·,q.value⟩)
  | _ => []

/-- The questions on parts of the value that a question rests on. -/
def descends : List Question :=
  match q.schema with
  | .object ms => match Json.lookup "$ref" ms with
    | some _ => []
    | none => (baseWithin q.base ms).toOption.toList.flatMap fun inner =>
      (ms.flatMap fun m => below ms m.1 m.2 q.value).map fun p => ⟨inner,p.1,p.2⟩
  | _ => []

def rests : List Question := q.stays r ++ q.descends

end Question

section
variable {r : Resources} {q : Question} {ms : List (String × Json)} {base : Uri} {value : Json}

/-! The questions that a schema without a reference rests on. -/

theorem mem_stays {inner : Uri} (plain : Json.lookup "$ref" ms = none)
    (home : baseWithin base ms = .ok inner) {q' : Question} :
    q' ∈ (⟨base,.object ms,value⟩ : Question).stays r ↔
      ∃ m ∈ ms, ∃ s ∈ applied m.1 m.2 value, q' = ⟨inner,s,value⟩ := by
  simp only [Question.stays,plain,home,Except.toOption,Option.toList_some,List.flatMap_singleton,
    List.mem_map,List.mem_flatMap,eq_comm]
  constructor
  · rintro ⟨s,⟨m,member,inside⟩,rfl⟩
    exact ⟨m,member,s,inside,rfl⟩
  · rintro ⟨m,member,s,inside,rfl⟩
    exact ⟨s,⟨m,member,inside⟩,rfl⟩

theorem mem_descends {inner : Uri} (plain : Json.lookup "$ref" ms = none)
    (home : baseWithin base ms = .ok inner) {q' : Question} :
    q' ∈ (⟨base,.object ms,value⟩ : Question).descends ↔
      ∃ m ∈ ms, ∃ p ∈ below ms m.1 m.2 value, q' = ⟨inner,p.1,p.2⟩ := by
  simp only [Question.descends,plain,home,Except.toOption,Option.toList_some,
    List.flatMap_singleton,List.mem_map,List.mem_flatMap,eq_comm]
  constructor
  · rintro ⟨p,⟨m,member,inside⟩,rfl⟩
    exact ⟨m,member,p,inside,rfl⟩
  · rintro ⟨m,member,p,inside,rfl⟩
    exact ⟨p,⟨m,member,inside⟩,rfl⟩

theorem Question.says_congr {c : Comparison} {sat sat' : Question → Prop}
    (same : ∀ q' ∈ q.rests r, sat q' ↔ sat' q') : q.Says r c sat ↔ q.Says r c sat' := by
  obtain ⟨base,schema,value⟩ := q
  cases schema with
  | object ms =>
    cases plain : Json.lookup "$ref" ms with
    | some ref =>
      simp only [Question.Says,plain]
      refine exists_congr fun t => and_congr_right fun found => same _ ?_
      simp [Question.rests,Question.stays,plain,found]
    | none =>
      simp only [Question.Says,plain]
      refine exists_congr fun inner => and_congr_right fun home => forall₂_congr fun m member =>
        Meaning.says_congr ms m.1 m.2 value (fun s inside => same _ ?_) (fun p inside => same _ ?_)
      · exact List.mem_append_left _ ((mem_stays plain home).mpr ⟨m,member,s,inside,rfl⟩)
      · exact List.mem_append_right _ ((mem_descends plain home).mpr ⟨m,member,p,inside,rfl⟩)
  | _ => exact Iff.rfl

end

/-- A question comes to what its schema says, once the questions that it rests on have come to
something. -/
inductive Means (r : Resources) (c : Comparison) : Question → Prop → Prop where
  | intro (q : Question) (sat : Question → Prop)
    (inner : ∀ q' ∈ q.rests r, Means r c q' (sat q')) : Means r c q (q.Says r c sat)

/-- The value satisfies the schema. -/
def Holds (r : Resources) (c : Comparison) (q : Question) : Prop := ∃ p, Means r c q p ∧ p

/-- Questions that come up in answering one. -/
def Reaches (r : Resources) : Question → Question → Prop :=
  Relation.ReflTransGen fun q q' => q' ∈ q.rests r

/-- Questions that come up after one, in answering it. -/
def Further (r : Resources) : Question → Question → Prop :=
  Relation.TransGen fun q q' => q' ∈ q.rests r

/-- Nowhere in answering a question are there questions on the same value without end, each resting
on the next. -/
def Grounded (r : Resources) (q : Question) : Prop :=
  ∀ q', Reaches r q q' → ¬ ∃ chain : Nat → Question,
    chain 0 = q' ∧ ∀ n, chain (n + 1) ∈ (chain n).stays r

section
variable {r : Resources} {c : Comparison} {q : Question} {p p' : Prop}

/-- A question comes to one thing. -/
theorem Means.unique (one : Means r c q p) (two : Means r c q p') : p ↔ p' := by
  induction one generalizing p' with
  | intro q sat _ ih =>
    cases two with
    | intro q sat' inner => exact Question.says_congr fun q' rest => ih q' rest (inner q' rest)

theorem Means.holds_iff (means : Means r c q p) : Holds r c q ↔ p :=
  ⟨fun ⟨_,other,holds⟩ => (means.unique other).mpr holds,fun holds => ⟨p,means,holds⟩⟩

/-- The questions that one rests on, and those that they rest on, come to an end. -/
abbrev Ends (r : Resources) : Question → Prop := Acc fun q' q => q' ∈ q.rests r

theorem Ends.means (ends : Ends r q) : Means r c q (q.Says r c (Holds r c)) := by
  induction ends with
  | intro q _ ih =>
    refine .intro q _ fun q' rest => ?_
    have means := ih q' rest
    rwa [propext means.holds_iff]

/-- What holds is what the schema says, keyword by keyword. -/
theorem Ends.holds_iff (ends : Ends r q) : Holds r c q ↔ q.Says r c (Holds r c) :=
  ends.means.holds_iff

theorem Ends.of_reaches (ends : Ends r q) {q' : Question} (reaches : Reaches r q q') :
    Ends r q' := by
  induction reaches with
  | refl => exact ends
  | tail _ rest ih => exact ih.inv rest

/-- Where questions come to an end there is no chain of them without one. -/
theorem Ends.grounded (ends : Ends r q) : Grounded r q := by
  rintro q' reaches ⟨chain,rfl,steps⟩
  refine not_acc_iff_exists_descending_chain.mpr ?_ (ends.of_reaches reaches)
  exact ⟨chain,rfl,fun n => List.mem_append_left _ (steps n)⟩

end

end Meaning
end ApiReview
