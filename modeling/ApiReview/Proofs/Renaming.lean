import ApiReview.Proofs.Asking
import ApiReview.Proofs.Compiled
import Mathlib.Data.List.Basic

/-! Schemas whose references go by other numbers. What a schema comes to, and how it is read, depends
on the numbers of places only through what references are followed to. -/
namespace ApiReview.Schema

mutual

/-- Gives other numbers to the places that a schema refers to. -/
def rename (σ : Nat → Nat) : Schema → Schema
  | .everything => .everything
  | .nothing => .nothing
  | .reference i => .reference (σ i)
  | .keywords list => .keywords (renameKeywords σ list)

def renameKeywords (σ : Nat → Nat) : List Keyword → List Keyword
  | [] => []
  | k :: rest => renameKeyword σ k :: renameKeywords σ rest

def renameKeyword (σ : Nat → Nat) : Keyword → Keyword
  | .constraint c => .constraint c
  | .required names => .required names
  | .dependencies list => .dependencies (renameNamed σ list)
  | .properties list => .properties (renameNamed σ list)
  | .patternProperties list => .patternProperties (renameMatching σ list)
  | .members named matching rest =>
    .members (renameNamed σ named) (renameMatching σ matching) (rename σ rest)
  | .onlyMembers named matching => .onlyMembers (renameNamed σ named) (renameMatching σ matching)
  | .noMembers => .noMembers
  | .items s => .items (rename σ s)
  | .firstItems list => .firstItems (renameAll σ list)
  | .restItems first s => .restItems first (rename σ s)
  | .noRestItems first => .noRestItems first
  | .allOf list => .allOf (renameAll σ list)
  | .anyOf list => .anyOf (renameAll σ list)
  | .oneOf list => .oneOf (renameAll σ list)
  | .not source s => .not source (rename σ s)

def renameAll (σ : Nat → Nat) : List Schema → List Schema
  | [] => []
  | s :: rest => rename σ s :: renameAll σ rest

def renameNamed (σ : Nat → Nat) : List (String × Schema) → List (String × Schema)
  | [] => []
  | (name,s) :: rest => (name,rename σ s) :: renameNamed σ rest

def renameMatching (σ : Nat → Nat) : List (Pattern × Schema) → List (Pattern × Schema)
  | [] => []
  | (p,s) :: rest => (p,rename σ s) :: renameMatching σ rest

end

section
variable (σ : Nat → Nat)

theorem renameAll_eq (list : List Schema) : renameAll σ list = list.map (rename σ) := by
  induction list with
  | nil => rfl
  | cons s rest ih => rw [renameAll,List.map_cons,ih]

theorem renameNamed_eq (list : List (String × Schema)) :
    renameNamed σ list = list.map (Prod.map id (rename σ)) := by
  induction list with
  | nil => rfl
  | cons m rest ih => rw [renameNamed,List.map_cons,ih]; rfl

theorem renameMatching_eq (list : List (Pattern × Schema)) :
    renameMatching σ list = list.map (Prod.map id (rename σ)) := by
  induction list with
  | nil => rfl
  | cons m rest ih => rw [renameMatching,List.map_cons,ih]; rfl

theorem renameKeyword_eq (k : Keyword) : renameKeyword σ k = k.map (rename σ) := by
  cases k <;> simp [renameKeyword,Keyword.map,renameAll_eq,renameNamed_eq,renameMatching_eq]

theorem rename_keywords (list : List Keyword) :
    rename σ (.keywords list) = .keywords (list.map (·.map (rename σ))) := by
  have each (list : List Keyword) : renameKeywords σ list = list.map (·.map (rename σ)) := by
    induction list with
    | nil => rfl
    | cons k rest ih => rw [renameKeywords,renameKeyword_eq,ih,List.map_cons]
  rw [rename,each]

end

/-! The schemas in a keyword are smaller than it. -/

theorem sizeOf_snd_lt {κ : Type} [SizeOf κ] {list : List (κ × Schema)} {s : Schema}
    (listed : s ∈ list.map Prod.snd) : sizeOf s < sizeOf list := by
  obtain ⟨m,member,rfl⟩ := List.mem_map.mp listed
  have less := List.sizeOf_lt_of_mem member
  obtain ⟨k,s⟩ := m
  simp only [Prod.mk.sizeOf_spec] at less
  dsimp only
  omega

theorem Keyword.sizeOf_lt {k : Keyword} {s : Schema} (asked : s ∈ k.beside ++ k.inside) :
    sizeOf s < sizeOf k := by
  cases k with
  | constraint | required | noMembers | noRestItems => cases asked
  | dependencies list | properties list | patternProperties list =>
    have less := sizeOf_snd_lt (by simpa [beside,inside] using asked)
    simp only [dependencies.sizeOf_spec,properties.sizeOf_spec,patternProperties.sizeOf_spec]
    omega
  | members named matching rest =>
    simp only [beside,inside,List.nil_append,List.mem_append,List.mem_singleton] at asked
    rw [members.sizeOf_spec]
    rcases asked with (own | hit) | rfl
    · have less := sizeOf_snd_lt own
      omega
    · have less := sizeOf_snd_lt hit
      omega
    · omega
  | onlyMembers named matching =>
    simp only [beside,inside,List.nil_append,List.mem_append] at asked
    rw [onlyMembers.sizeOf_spec]
    rcases asked with own | hit
    · have less := sizeOf_snd_lt own
      omega
    · have less := sizeOf_snd_lt hit
      omega
  | items t | restItems first t | not source t =>
    obtain rfl : s = t := by simpa [beside,inside] using asked
    simp only [items.sizeOf_spec,restItems.sizeOf_spec,not.sizeOf_spec]
    omega
  | firstItems list | allOf list | anyOf list | oneOf list =>
    have less : sizeOf s < sizeOf list :=
      List.sizeOf_lt_of_mem (by simpa [beside,inside] using asked)
    simp only [firstItems.sizeOf_spec,allOf.sizeOf_spec,anyOf.sizeOf_spec,oneOf.sizeOf_spec]
    omega

theorem sizeOf_lt_keywords {list : List Keyword} {s : Schema}
    (asked : s ∈ (Schema.keywords list).beside ++ (Schema.keywords list).inside) :
    sizeOf s < sizeOf (Schema.keywords list) := by
  obtain ⟨k,listed,asked⟩ : ∃ k ∈ list, s ∈ k.beside ++ k.inside := by
    rcases List.mem_append.mp asked with here | parts
    · obtain ⟨k,listed,asked⟩ := List.mem_flatMap.mp here
      exact ⟨k,listed,List.mem_append_left _ asked⟩
    · obtain ⟨k,listed,asked⟩ := List.mem_flatMap.mp parts
      exact ⟨k,listed,List.mem_append_right _ asked⟩
  have one := Keyword.sizeOf_lt asked
  have all := List.sizeOf_lt_of_mem listed
  rw [keywords.sizeOf_spec]
  omega

/-- With other numbers a schema comes to the same, if references do. -/
theorem rename_same {R : List Fault → List Fault → Prop} (like : Listwise R) {f f' : Following}
    {σ : Nat → Nat} (followed : ∀ i v, Same R f f' (.reference i) (.reference (σ i)) v) (s : Schema)
    (v : Json) : Same R f f' s (rename σ s) v := by
  induction size : sizeOf s using Nat.strongRecOn generalizing s v with
  | ind n ih =>
    subst size
    cases s with
    | everything => exact .everything like v
    | nothing => exact .nothing like v
    | reference i => exact followed i v
    | keywords list =>
      rw [rename_keywords]
      refine keywords_same like (fun t asked => ?_) fun t asked w _ => ?_
      · exact ih _ (sizeOf_lt_keywords (List.mem_append_left _ asked)) t v rfl
      · exact ih _ (sizeOf_lt_keywords (List.mem_append_right _ asked)) t w rfl

/-! Readings. -/

/-- Follows references by other numbers. -/
def Setting.rename (σ : Nat → Nat) (S : Setting) : Setting :=
  ⟨fun base text => σ <$> S.follow base text,S.formats⟩

/-- A member of a schema, with the schemas in it read with other numbers. -/
def Part.rename (σ : Nat → Nat) (p : Part) : Part where
  name := p.name
  value := p.value
  schema := Schema.rename σ <$> p.schema
  schemas := List.map (Schema.rename σ) <$> p.schemas
  fields := List.map (Prod.map id (Schema.rename σ)) <$> p.fields
  dependencies := List.map (Prod.map id (Schema.rename σ)) <$> p.dependencies

section
variable (σ : Nat → Nat)

theorem find?_rename (name : String) (parts : List Part) :
    Part.find? name (parts.map (Part.rename σ)) = (Part.find? name parts).map (Part.rename σ) := by
  rw [Part.find?,List.find?_map]
  rfl

theorem matchingFields_rename (p : Part) : matchingFields (p.rename σ) =
    List.map (Prod.map id (Schema.rename σ)) <$> matchingFields p := by
  simp [matchingFields,Part.rename,List.zip_map_right,Function.comp_def,Prod.map]

theorem restKeyword_rename (ms : List (String × Json)) (p : Part) : restKeyword ms (p.rename σ) =
    Option.map (Keyword.map (Schema.rename σ)) <$> restKeyword ms p := by
  unfold restKeyword
  dsimp only [Part.rename]
  split <;> simp [Keyword.map]

theorem memberKeyword_rename (ms : List (String × Json)) (parts : List Part) (p : Part) :
    memberKeyword ms (parts.map (Part.rename σ)) (p.rename σ) =
      Option.map (Keyword.map (Schema.rename σ)) <$> memberKeyword ms parts p := by
  have matching : ((Part.find? "patternProperties" (parts.map (Part.rename σ))).map
        matchingFields).getD (pure []) = List.map (Prod.map id (Schema.rename σ)) <$>
      ((Part.find? "patternProperties" parts).map matchingFields).getD (pure []) := by
    rw [find?_rename]
    cases Part.find? "patternProperties" parts <;> simp [matchingFields_rename]
  have named : ((Part.find? "properties" (parts.map (Part.rename σ))).map (·.fields)).getD (pure []) =
      List.map (Prod.map id (Schema.rename σ)) <$>
      ((Part.find? "properties" parts).map (·.fields)).getD (pure []) := by
    rw [find?_rename]
    cases Part.find? "properties" parts <;> simp [Part.rename]
  have absent (name : String) : (Part.find? name (parts.map (Part.rename σ))).isNone =
      (Part.find? name parts).isNone := by
    rw [find?_rename,Option.isNone_map]
  unfold memberKeyword
  rw [matching,named,absent,absent]
  dsimp only [Part.rename]
  split
  · simp
  · simp only [map_bind,bind_map_left]
    refine bind_congr fun ps => bind_congr fun fs => ?_
    split
    · split <;> simp [Keyword.map]
    · simp [Keyword.map]

/-- A keyword is read in the same way, but for the numbers in its schemas. -/
theorem keyword_rename (formats : Bool) (ms : List (String × Json)) (parts : List Part) (p : Part) :
    keyword formats ms (parts.map (Part.rename σ)) (p.rename σ) =
      Option.map (Keyword.map (Schema.rename σ)) <$> keyword formats ms parts p := by
  unfold keyword
  rw [memberKeyword_rename,restKeyword_rename,matchingFields_rename]
  dsimp only [Part.rename]
  split
  all_goals try simp [Keyword.map]
  -- What is left looks at the value or at the other members once more.
  case h_2 =>
    split
    · simp [Keyword.map]
    · rfl
  case h_13 =>
    split
    · split <;> simp [Keyword.map]
    · simp
  case h_14 | h_17 | h_18 => split <;> simp [Keyword.map]
  case h_20 => split <;> simp [Keyword.map]

theorem mapM_rename {α β γ : Type} (g : β → γ) {h : α → α} {m m' : α → Reading _}
    (each : ∀ a, m' (h a) = g <$> m a) (list : List α) :
    (list.map h).mapM m' = List.map g <$> list.mapM m := by
  induction list with
  | nil => simp
  | cons a rest ih => simp [ih,each]

variable (S : Setting)

mutual

/-- Where references are followed by other numbers, the same is read with those numbers. -/
theorem ofJson_rename (base : Uri) : ∀ v : Json,
    ofJson (S.rename σ) base v = Schema.rename σ <$> ofJson S base v
  | .bool true | .bool false => by simp [ofJson,rename]
  | .null | .number _ | .string _ | .array _ => rfl
  | .object ms => by
    unfold ofJson
    split
    · simp [Setting.rename,rename]
    · simp only [map_bind]
      refine bind_congr fun here => ?_
      have formats : (S.rename σ).formats = S.formats := rfl
      rw [partsOf_rename here ms,formats,
        mapM_rename _ (keyword_rename σ S.formats ms (partsOf S here ms))]
      simp [rename_keywords,List.filterMap_map,List.map_filterMap]

theorem partsOf_rename (base : Uri) : ∀ ms : List (String × Json),
    partsOf (S.rename σ) base ms = (partsOf S base ms).map (Part.rename σ)
  | [] => rfl
  | (name,v) :: rest => by
    rw [partsOf,partsOf,List.map_cons,ofJson_rename base v,schemasOf_rename base v,
      fieldsOf_rename base v,dependenciesOf_rename base v,partsOf_rename base rest]
    rfl

theorem schemasOf_rename (base : Uri) : ∀ v : Json,
    schemasOf (S.rename σ) base v = List.map (Schema.rename σ) <$> schemasOf S base v
  | .array vs => itemsOf_rename base vs
  | .null | .bool _ | .number _ | .string _ | .object _ => rfl

theorem itemsOf_rename (base : Uri) : ∀ vs : List Json,
    itemsOf (S.rename σ) base vs = List.map (Schema.rename σ) <$> itemsOf S base vs
  | [] => by simp [itemsOf]
  | v :: rest => by simp [itemsOf,ofJson_rename base v,itemsOf_rename base rest]

theorem fieldsOf_rename (base : Uri) : ∀ v : Json,
    fieldsOf (S.rename σ) base v = List.map (Prod.map id (Schema.rename σ)) <$> fieldsOf S base v
  | .object ms => valuesOf_rename base ms
  | .null | .bool _ | .number _ | .string _ | .array _ => rfl

theorem valuesOf_rename (base : Uri) : ∀ ms : List (String × Json),
    valuesOf (S.rename σ) base ms = List.map (Prod.map id (Schema.rename σ)) <$> valuesOf S base ms
  | [] => by simp [valuesOf]
  | (_,v) :: rest => by simp [valuesOf,ofJson_rename base v,valuesOf_rename base rest]

theorem dependenciesOf_rename (base : Uri) : ∀ v : Json, dependenciesOf (S.rename σ) base v =
    List.map (Prod.map id (Schema.rename σ)) <$> dependenciesOf S base v
  | .object ms => dependentsOf_rename base ms
  | .null | .bool _ | .number _ | .string _ | .array _ => rfl

theorem dependentsOf_rename (base : Uri) : ∀ ms : List (String × Json), dependentsOf (S.rename σ) base ms =
    List.map (Prod.map id (Schema.rename σ)) <$> dependentsOf S base ms
  | [] => by simp [dependentsOf]
  | (name,v) :: rest => by
    have others := dependentsOf_rename base rest
    unfold dependentsOf
    cases v with
    | array vs => simp [others,rename,renameKeywords,renameKeyword]
    | _ => simp [others,ofJson_rename base _]

end

end

end ApiReview.Schema
