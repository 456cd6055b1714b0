import ApiReview.Schema.Reader
import Mathlib.Data.List.Forall2

/-! Readings compared. Nothing in the reading of a schema looks at the table but the following of
references, so two readings that follow references alike are alike in all. In what respect is open:
any relation will do that is kept where readings are put together. -/
namespace ApiReview.Schema

/-- A relation on readings that is kept where readings are put together. -/
structure Congruent (Rel : (α : Type) → Reading α → Reading α → Prop) : Prop where
  ok : ∀ {α : Type} (a : α), Rel α (pure a) (pure a)
  refuse : ∀ {α : Type} (e : Error), Rel α (throw e) (throw e)
  bind : ∀ {α β : Type} {m m' : Reading α} {f f' : α → Reading β}, Rel α m m' →
    (∀ a, Rel β (f a) (f' a)) → Rel β (m >>= f) (m' >>= f')

/-- A chain of readings comes to a result if each of them does. -/
theorem Reading.bind_iff {α β : Type} {m : Reading α} {f : α → Reading β} {t : Table}
    {r : β × Table} : (m >>= f) t = .ok r ↔ ∃ p, m t = .ok p ∧ f p.1 p.2 = .ok r := by
  cases one : m t with
  | error e => simp [Bind.bind,StateT.bind,Except.bind,one]
  | ok p => simp [Bind.bind,StateT.bind,Except.bind,one]

theorem Reading.lift_iff {α : Type} {x : Except Error α} {t : Table} {p : α × Table} :
    (x : Reading α) t = .ok p ↔ x = .ok p.1 ∧ t = p.2 := by
  obtain ⟨a,u⟩ := p
  cases x with
  | error e =>
    constructor
    · intro done
      cases done
    · rintro ⟨same,_⟩
      cases same
  | ok b =>
    refine ⟨fun done => ?_,fun done => ?_⟩
    · cases done
      exact ⟨rfl,rfl⟩
    · obtain ⟨same,rfl⟩ := done
      cases same
      rfl

variable {Rel : (α : Type) → Reading α → Reading α → Prop}

namespace Congruent
variable {α β : Type} (c : Congruent Rel)
include c

theorem lift (x : Except Error α) : Rel α (x : Reading α) (x : Reading α) := by
  cases x with
  | error e => exact c.refuse e
  | ok a => exact c.ok a

theorem pairwise {f f' : α → Reading β} {list list' : List α}
    (items : List.Forall₂ (fun a a' => Rel β (f a) (f' a')) list list') :
    Rel _ (list.mapM f) (list'.mapM f') := by
  induction items with
  | nil => simpa using c.ok []
  | cons one _ ih =>
    rw [List.mapM_cons,List.mapM_cons]
    exact c.bind one fun b => c.bind ih fun bs => c.ok _

theorem each {f f' : α → Reading β} {list : List α} (items : ∀ a ∈ list, Rel β (f a) (f' a)) :
    Rel _ (list.mapM f) (list.mapM f') :=
  c.pairwise (List.forall₂_same.mpr items)

end Congruent

section
variable (c : Congruent Rel)
include c

theorem stringOf_alike (v : Json) : Rel _ (stringOf v) (stringOf v) := by
  cases v with
  | string s => exact c.ok s
  | _ => exact c.refuse _

theorem stringsOf_alike (v : Json) : Rel _ (stringsOf v) (stringsOf v) := by
  cases v with
  | array vs => exact c.each fun v _ => stringOf_alike c v
  | _ => exact c.refuse _

theorem numberOf_alike (v : Json) : Rel _ (numberOf v) (numberOf v) := by
  cases v with
  | number n => exact c.ok n
  | _ => exact c.refuse _

theorem countOf_alike (v : Json) : Rel _ (countOf v) (countOf v) := by
  unfold countOf
  split
  · split
    · exact c.ok _
    · exact c.refuse _
  · exact c.refuse _

theorem kindOf_alike (v : Json) : Rel _ (kindOf v) (kindOf v) := by
  refine c.bind (stringOf_alike c v) fun name => ?_
  split
  · exact c.ok _
  · exact c.refuse _

theorem kindsOf_alike (v : Json) : Rel _ (kindsOf v) (kindsOf v) := by
  unfold kindsOf
  split
  · exact c.bind (kindOf_alike c _) fun k => c.ok _
  · exact c.bind (c.each fun v _ => kindOf_alike c v) fun ks => c.ok _
  · exact c.refuse _

theorem patternOf_alike (text : String) (v : Json) :
    Rel _ (patternOf text v) (patternOf text v) := by
  unfold patternOf
  split
  · exact c.ok _
  · exact c.refuse _

/-- Two ways to read a member of a schema that come to the same. -/
structure Part.Alike (Rel : (α : Type) → Reading α → Reading α → Prop) (p p' : Part) : Prop where
  name : p.name = p'.name
  value : p.value = p'.value
  schema : Rel _ p.schema p'.schema
  schemas : Rel _ p.schemas p'.schemas
  fields : Rel _ p.fields p'.fields
  dependencies : Rel _ p.dependencies p'.dependencies

omit c in
theorem find?_alike {parts parts' : List Part} (all : List.Forall₂ (Part.Alike Rel) parts parts')
    (name : String) :
    (Part.find? name parts = none ∧ Part.find? name parts' = none) ∨
    ∃ p p', Part.find? name parts = some p ∧ Part.find? name parts' = some p' ∧ p.Alike Rel p' := by
  induction all with
  | nil => exact .inl ⟨rfl,rfl⟩
  | @cons p p' parts parts' alike _ ih =>
    by_cases same : p'.name = name
    · exact .inr ⟨p,p',by simp [Part.find?,alike.name,same],by simp [Part.find?,same],alike⟩
    · simpa [Part.find?,alike.name,same] using ih

theorem matchingFields_alike {p p' : Part} (alike : p.Alike Rel p') :
    Rel _ (matchingFields p) (matchingFields p') := by
  unfold matchingFields
  rw [alike.value]
  exact c.bind (c.each fun m _ => patternOf_alike c m.1 m.2) fun patterns =>
    c.bind alike.fields fun fields => c.ok _

theorem memberKeyword_alike (ms : List (String × Json)) {parts parts' : List Part}
    (all : List.Forall₂ (Part.Alike Rel) parts parts') {p p' : Part} (alike : p.Alike Rel p') :
    Rel _ (memberKeyword ms parts p) (memberKeyword ms parts' p') := by
  have matching : Rel _
      (((Part.find? "patternProperties" parts).map matchingFields).getD (pure []))
      (((Part.find? "patternProperties" parts').map matchingFields).getD (pure [])) := by
    rcases find?_alike all "patternProperties" with ⟨none,none'⟩ | ⟨q,q',one,one',same⟩
    · simpa [none,none'] using c.ok []
    · simpa [one,one'] using matchingFields_alike c same
  have named : Rel _ (((Part.find? "properties" parts).map (·.fields)).getD (pure []))
      (((Part.find? "properties" parts').map (·.fields)).getD (pure [])) := by
    rcases find?_alike all "properties" with ⟨none,none'⟩ | ⟨q,q',one,one',same⟩
    · simpa [none,none'] using c.ok []
    · simpa [one,one'] using same.fields
  have absent (name : String) :
      (Part.find? name parts).isNone = (Part.find? name parts').isNone := by
    rcases find?_alike all name with ⟨none,none'⟩ | ⟨q,q',one,one',same⟩
    · simp [none,none']
    · simp [one,one']
  unfold memberKeyword
  rw [alike.value,absent,absent]
  split
  · exact c.ok _
  · refine c.bind matching fun ps => c.bind named fun fs => ?_
    split
    · split
      · exact c.ok _
      · exact c.ok _
    · exact c.bind alike.schema fun s => c.ok _

theorem restKeyword_alike (ms : List (String × Json)) {p p' : Part} (alike : p.Alike Rel p') :
    Rel _ (restKeyword ms p) (restKeyword ms p') := by
  unfold restKeyword
  rw [alike.value]
  split
  · exact c.ok _
  · exact c.bind alike.schema fun s => c.ok _
  · exact c.ok _

/-- A keyword is chosen by the name and the value of a member, which are the same. -/
theorem keyword_alike (formats : Bool) (ms : List (String × Json)) {parts parts' : List Part}
    (all : List.Forall₂ (Part.Alike Rel) parts parts') {p p' : Part} (alike : p.Alike Rel p') :
    Rel _ (keyword formats ms parts p) (keyword formats ms parts' p') := by
  unfold keyword
  simp only [alike.name,alike.value]
  split
  all_goals first
    | exact c.bind (kindsOf_alike c _) fun _ => c.ok _
    | exact c.bind (numberOf_alike c _) fun _ => c.ok _
    | exact c.bind (countOf_alike c _) fun _ => c.ok _
    | exact c.bind (stringOf_alike c _) fun _ => c.bind (patternOf_alike c _ _) fun _ => c.ok _
    | exact c.bind (stringsOf_alike c _) fun _ => c.ok _
    | exact c.bind alike.dependencies fun _ => c.ok _
    | exact c.bind alike.schemas fun _ => c.ok _
    | exact c.bind alike.schema fun _ => c.ok _
    | exact memberKeyword_alike c ms all alike
    | exact restKeyword_alike c ms alike
    | exact c.ok _
    | skip
  -- What is left looks at the value or at the other members once more.
  case h_2 =>
    split
    · exact c.ok _
    · exact c.refuse _
  case h_13 =>
    cases p'.value.string?.bind Format.ofName? with
    | none => exact c.ok _
    | some f => cases formats <;> exact c.ok _
  case h_14 =>
    split
    · exact c.ok _
    · exact c.ok _
  case h_17 =>
    split
    · exact c.bind alike.fields fun _ => c.ok _
    · exact c.ok _
  case h_18 =>
    split
    · exact c.bind (matchingFields_alike c alike) fun _ => c.ok _
    · exact c.ok _
  case h_20 =>
    split
    · exact c.bind alike.schemas fun _ => c.ok _
    · exact c.bind alike.schema fun _ => c.ok _

end

/-- Both settings follow references alike. -/
def Setting.Alike (Rel : (α : Type) → Reading α → Reading α → Prop) (S S' : Setting) : Prop :=
  S.formats = S'.formats ∧ ∀ base text, Rel _ (S.follow base text) (S'.follow base text)

section
variable {S S' : Setting}

mutual

theorem ofJson_alike (c : Congruent Rel) (alike : S.Alike Rel S') (base : Uri) :
    ∀ v : Json, Rel _ (ofJson S base v) (ofJson S' base v)
  | .bool true | .bool false => c.ok _
  | .null | .number _ | .string _ | .array _ => c.refuse _
  | .object ms => by
    unfold ofJson
    split
    · exact c.bind (stringOf_alike c _) fun text => c.bind (alike.2 base text) fun i => c.ok _
    · refine c.bind (c.lift _) fun here => ?_
      have parts := partsOf_alike c alike here ms
      rw [alike.1]
      exact c.bind (c.pairwise (parts.imp fun _ _ same => keyword_alike c _ ms parts same))
        fun ks => c.ok _

theorem partsOf_alike (c : Congruent Rel) (alike : S.Alike Rel S') (base : Uri) :
    ∀ ms : List (String × Json), List.Forall₂ (Part.Alike Rel) (partsOf S base ms) (partsOf S' base ms)
  | [] => .nil
  | (_,v) :: rest => .cons
    ⟨rfl,rfl,ofJson_alike c alike base v,schemasOf_alike c alike base v,
      fieldsOf_alike c alike base v,dependenciesOf_alike c alike base v⟩
    (partsOf_alike c alike base rest)

theorem schemasOf_alike (c : Congruent Rel) (alike : S.Alike Rel S') (base : Uri) :
    ∀ v : Json, Rel _ (schemasOf S base v) (schemasOf S' base v)
  | .array vs => itemsOf_alike c alike base vs
  | .null | .bool _ | .number _ | .string _ | .object _ => c.refuse _

theorem itemsOf_alike (c : Congruent Rel) (alike : S.Alike Rel S') (base : Uri) :
    ∀ vs : List Json, Rel _ (itemsOf S base vs) (itemsOf S' base vs)
  | [] => c.ok _
  | v :: rest => c.bind (ofJson_alike c alike base v) fun _ =>
    c.bind (itemsOf_alike c alike base rest) fun _ => c.ok _

theorem fieldsOf_alike (c : Congruent Rel) (alike : S.Alike Rel S') (base : Uri) :
    ∀ v : Json, Rel _ (fieldsOf S base v) (fieldsOf S' base v)
  | .object ms => valuesOf_alike c alike base ms
  | .null | .bool _ | .number _ | .string _ | .array _ => c.refuse _

theorem valuesOf_alike (c : Congruent Rel) (alike : S.Alike Rel S') (base : Uri) :
    ∀ ms : List (String × Json), Rel _ (valuesOf S base ms) (valuesOf S' base ms)
  | [] => c.ok _
  | (_,v) :: rest => c.bind (ofJson_alike c alike base v) fun _ =>
    c.bind (valuesOf_alike c alike base rest) fun _ => c.ok _

theorem dependenciesOf_alike (c : Congruent Rel) (alike : S.Alike Rel S') (base : Uri) :
    ∀ v : Json, Rel _ (dependenciesOf S base v) (dependenciesOf S' base v)
  | .object ms => dependentsOf_alike c alike base ms
  | .null | .bool _ | .number _ | .string _ | .array _ => c.refuse _

theorem dependentsOf_alike (c : Congruent Rel) (alike : S.Alike Rel S') (base : Uri) :
    ∀ ms : List (String × Json), Rel _ (dependentsOf S base ms) (dependentsOf S' base ms)
  | [] => c.ok _
  | (name,v) :: rest => by
    have later (s : Schema) := c.bind (dependentsOf_alike c alike base rest)
      fun others => c.ok ((name,s) :: others)
    unfold dependentsOf
    cases v with
    | array vs => exact c.bind (stringsOf_alike c _) fun names => c.bind (c.ok _) later
    | _ => exact c.bind (ofJson_alike c alike base _) later

end

end

end ApiReview.Schema
