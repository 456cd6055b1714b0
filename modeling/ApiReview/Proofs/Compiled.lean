import ApiReview.Proofs.Shape
import ApiReview.Proofs.Table
import ApiReview.Proofs.Whole

/-! What is read of a schema. Each reader comes to a result only from a value of its own form, and the
result tells of that value. -/
namespace ApiReview.Schema
open Meaning

/-- A reading can come to a result, from some table. -/
def Yields {α : Type} (m : Reading α) (a : α) : Prop := ∃ t u, m t = .ok (a,u)

namespace Yields
variable {α β : Type}

theorem of_gives {m : Reading α} {a : α} (gives : Gives m a) : Yields m a := ⟨{},{},gives {}⟩

theorem bind {m : Reading α} {f : α → Reading β} {b : β} (yields : Yields (m >>= f) b) :
    ∃ a, Yields m a ∧ Yields (f a) b := by
  obtain ⟨t,u,done⟩ := yields
  obtain ⟨⟨a,v⟩,one,two⟩ := Reading.bind_iff.mp done
  exact ⟨a,⟨t,v,one⟩,⟨v,u,two⟩⟩

theorem pure {a b : α} (yields : Yields (Pure.pure a : Reading α) b) : b = a := by
  obtain ⟨t,u,done⟩ := yields
  cases done
  rfl

theorem refuse {e : Error} {a : α} : ¬ Yields (throw e : Reading α) a := by
  rintro ⟨t,u,done⟩
  cases done

theorem lift {x : Except Error α} {a : α} (yields : Yields (x : Reading α) a) : x = .ok a := by
  obtain ⟨t,u,done⟩ := yields
  exact (Reading.lift_iff.mp done).1

theorem mapM {f : α → Reading β} {list : List α} {found : List β}
    (yields : Yields (list.mapM f) found) : List.Forall₂ (fun a b => Yields (f a) b) list found := by
  induction list generalizing found with
  | nil =>
    rw [List.mapM_nil] at yields
    rw [yields.pure]
    exact .nil
  | cons a rest ih =>
    rw [List.mapM_cons] at yields
    obtain ⟨b,one,yields⟩ := yields.bind
    obtain ⟨bs,two,yields⟩ := yields.bind
    rw [yields.pure]
    exact .cons one (ih two)

end Yields

theorem lookUp_yields {keys : List Uri} {base : Uri} {text : String} {i : Nat}
    (yields : Yields (lookUp keys base text) i) :
    ∃ uri, resolve base text = .ok uri ∧ keys[i]? = some uri := by
  obtain ⟨uri,one,yields⟩ := yields.bind
  refine ⟨uri,one.lift,?_⟩
  split at yields
  · next j found =>
    rw [yields.pure]
    obtain ⟨inside,same,_⟩ := List.findIdx?_eq_some_iff_getElem.mp found
    rw [List.getElem?_eq_getElem inside,← eq_of_beq same]
  · exact absurd yields Yields.refuse

/-! Values of keywords that hold no schemas. -/

section
variable {v : Json}

theorem stringOf_yields {s : String} (yields : Yields (stringOf v) s) : v = .string s := by
  unfold stringOf at yields
  split at yields
  · rw [yields.pure]
  · exact absurd yields Yields.refuse

theorem filterMap_string {α : Type} (text : α → String) {vs : List Json} {list : List α}
    (each : List.Forall₂ (fun v a => v = .string (text a)) vs list) :
    vs.filterMap Json.string? = list.map text := by
  induction each with
  | nil => rfl
  | cons one _ ih => simp [one,Json.string?,ih]

theorem stringsOf_yields {names : List String} (yields : Yields (stringsOf v) names) :
    (∃ vs, v = .array vs) ∧ v.texts = names := by
  unfold stringsOf at yields
  split at yields
  · next vs =>
    have texts := filterMap_string id (yields.mapM.imp fun _ _ => stringOf_yields)
    exact ⟨⟨vs,rfl⟩,texts.trans (List.map_id names)⟩
  · exact absurd yields Yields.refuse

theorem numberOf_yields {n : Number} (yields : Yields (numberOf v) n) : v = .number n := by
  unfold numberOf at yields
  split at yields
  · rw [yields.pure]
  · exact absurd yields Yields.refuse

theorem countOf_yields {n : Nat} (yields : Yields (countOf v) n) : v.whole? = some (n : Int) := by
  unfold countOf at yields
  split at yields
  · next i fits =>
    split at yields
    · next least =>
      rw [yields.pure]
      simp [Json.whole?,Int.toNat_of_nonneg least]
    · exact absurd yields Yields.refuse
  · exact absurd yields Yields.refuse

theorem patternOf_yields {text : String} {p : Pattern} (yields : Yields (patternOf text v) p) :
    ∀ s, p.matches s = finds text s := by
  unfold patternOf at yields
  split at yields
  · next regex found =>
    rw [yields.pure]
    simp [Pattern.matches,finds,found]
  · exact absurd yields Yields.refuse

theorem kindOf_yields {k : Kind} (yields : Yields (kindOf v) k) : v = .string k.name := by
  obtain ⟨name,one,yields⟩ := yields.bind
  obtain rfl := stringOf_yields one
  split at yields
  · next l found =>
    rw [yields.pure]
    have same := List.find?_some found
    simpa [eq_comm] using same
  · exact absurd yields Yields.refuse

theorem isA_name (k : Kind) (w : Json) : IsA k.name w ↔ k.has w = true := by
  cases w with
  | number n => cases k <;> cases n <;> simp [IsA,Kind.name,Kind.has,Json.whole?]
  | _ => cases k <;> simp [IsA,Kind.name,Kind.has,Json.whole?]

/-- Several kinds are kept in the order of all kinds, which makes no difference. -/
theorem kindsOf_yields {kinds : List Kind} (yields : Yields (kindsOf v) kinds) (w : Json) :
    kinds.any (·.has w) = true ↔ ∃ name ∈ namesIn v, IsA name w := by
  unfold kindsOf at yields
  split at yields
  · next s =>
    obtain ⟨k,one,two⟩ := yields.bind
    cases kindOf_yields one
    rw [two.pure]
    simp [namesIn,isA_name]
  · next vs =>
    obtain ⟨ks,each,yields⟩ := yields.bind
    have names := filterMap_string Kind.name (each.mapM.imp fun _ _ => kindOf_yields)
    have all (k : Kind) : k ∈ Kind.all := by cases k <;> decide
    rw [yields.pure]
    change _ ↔ ∃ name ∈ vs.filterMap Json.string?, IsA name w
    simp [names,isA_name,all]
  · exact absurd yields Yields.refuse

end

/-! Schemas in the values of keywords. -/

section
variable {S : Setting} {base : Uri} {v : Json}

/-- A schema can be read to a schema in the form in which it is applied. -/
def Reads (S : Setting) (base : Uri) (v : Json) (s : Schema) : Prop := Yields (ofJson S base v) s

theorem itemsOf_yields {vs : List Json} {ss : List Schema} (yields : Yields (itemsOf S base vs) ss) :
    List.Forall₂ (Reads S base) vs ss := by
  induction vs generalizing ss with
  | nil =>
    rw [yields.pure]
    exact .nil
  | cons v rest ih =>
    obtain ⟨s,one,yields⟩ := yields.bind
    obtain ⟨others,two,yields⟩ := yields.bind
    rw [yields.pure]
    exact .cons one (ih two)

theorem schemasOf_yields {ss : List Schema} (yields : Yields (schemasOf S base v) ss) :
    List.Forall₂ (Reads S base) v.elements ss := by
  cases v with
  | array vs => exact itemsOf_yields yields
  | _ => exact absurd yields Yields.refuse

/-- A named schema is read to one of the same name. -/
def ReadsField (S : Setting) (base : Uri) (m : String × Json) (f : String × Schema) : Prop :=
  f.1 = m.1 ∧ Reads S base m.2 f.2

theorem valuesOf_yields {ms : List (String × Json)} {fs : List (String × Schema)}
    (yields : Yields (valuesOf S base ms) fs) : List.Forall₂ (ReadsField S base) ms fs := by
  induction ms generalizing fs with
  | nil =>
    rw [yields.pure]
    exact .nil
  | cons m rest ih =>
    obtain ⟨s,one,yields⟩ := yields.bind
    obtain ⟨others,two,yields⟩ := yields.bind
    rw [yields.pure]
    exact .cons ⟨rfl,one⟩ (ih two)

theorem fieldsOf_yields {fs : List (String × Schema)} (yields : Yields (fieldsOf S base v) fs) :
    List.Forall₂ (ReadsField S base) v.fields fs := by
  cases v with
  | object ms => exact valuesOf_yields yields
  | _ => exact absurd yields Yields.refuse

/-- A dependency is read to a schema that asks for members, or to the schema that it is. -/
def ReadsDependency (S : Setting) (base : Uri) (m : String × Json) (f : String × Schema) : Prop :=
  f.1 = m.1 ∧ ((∃ vs, m.2 = .array vs) ∧ f.2 = .keywords [.required m.2.texts] ∨
    m.2.items? = none ∧ Reads S base m.2 f.2)

theorem dependentsOf_yields {ms : List (String × Json)} {fs : List (String × Schema)}
    (yields : Yields (dependentsOf S base ms) fs) :
    List.Forall₂ (ReadsDependency S base) ms fs := by
  induction ms generalizing fs with
  | nil =>
    rw [yields.pure]
    exact .nil
  | cons m rest ih =>
    obtain ⟨name,v⟩ := m
    have later {s : Schema} (here : ReadsDependency S base (name,v) (name,s))
        (yields : Yields (do return (name,s) :: (← dependentsOf S base rest)) fs) :
        List.Forall₂ (ReadsDependency S base) ((name,v) :: rest) fs := by
      obtain ⟨others,two,yields⟩ := yields.bind
      rw [yields.pure]
      exact .cons here (ih two)
    unfold dependentsOf at yields
    cases v with
    | array vs =>
      obtain ⟨names,one,yields⟩ := yields.bind
      obtain ⟨array,rfl⟩ := stringsOf_yields one
      obtain ⟨s,two,yields⟩ := yields.bind
      rw [two.pure] at yields
      exact later ⟨rfl,.inl ⟨array,rfl⟩⟩ yields
    | _ =>
      obtain ⟨s,one,yields⟩ := yields.bind
      exact later ⟨rfl,.inr ⟨rfl,one⟩⟩ yields

theorem dependenciesOf_yields {fs : List (String × Schema)}
    (yields : Yields (dependenciesOf S base v) fs) :
    List.Forall₂ (ReadsDependency S base) v.fields fs := by
  cases v with
  | object ms => exact dependentsOf_yields yields
  | _ => exact absurd yields Yields.refuse

/-- A member of a schema with the ways to read what is in it. -/
def partOf (S : Setting) (base : Uri) (m : String × Json) : Part where
  name := m.1
  value := m.2
  schema := ofJson S base m.2
  schemas := schemasOf S base m.2
  fields := fieldsOf S base m.2
  dependencies := dependenciesOf S base m.2

theorem partsOf_eq (ms : List (String × Json)) : partsOf S base ms = ms.map (partOf S base) := by
  induction ms with
  | nil => rfl
  | cons m rest ih =>
    obtain ⟨name,v⟩ := m
    simp [partsOf,partOf,ih]

theorem find?_partsOf (ms : List (String × Json)) (name : String) :
    Part.find? name (partsOf S base ms) =
      (Json.lookup name ms).map fun v => partOf S base (name,v) := by
  rw [partsOf_eq]
  induction ms with
  | nil => rfl
  | cons m rest ih =>
    obtain ⟨k,v⟩ := m
    rw [Part.find?] at ih ⊢
    by_cases same : k = name
    · subst same
      simp [Json.lookup,partOf]
    · simpa [Json.lookup,partOf,same] using ih

/-- A schema for members whose names match a pattern. -/
def ReadsMatching (S : Setting) (base : Uri) (m : String × Json) (f : Pattern × Schema) : Prop :=
  (∀ s, f.1.matches s = finds m.1 s) ∧ Reads S base m.2 f.2

theorem forall₂_zip {α β γ : Type} {R : α → β → Prop} {Q : α → γ → Prop} {as : List α} {bs : List β}
    {cs : List γ} (one : List.Forall₂ R as bs) (two : List.Forall₂ Q as cs) :
    List.Forall₂ (fun a p => R a p.1 ∧ Q a p.2) as (bs.zip cs) := by
  induction one generalizing cs with
  | nil => exact .nil
  | cons first _ ih =>
    cases two with
    | cons second rest => exact .cons ⟨first,second⟩ (ih rest)

theorem matchingFields_yields {m : String × Json} {fs : List (Pattern × Schema)}
    (yields : Yields (matchingFields (partOf S base m)) fs) :
    List.Forall₂ (ReadsMatching S base) m.2.fields fs := by
  obtain ⟨patterns,one,yields⟩ := yields.bind
  obtain ⟨fields,two,yields⟩ := yields.bind
  rw [yields.pure]
  have texts := one.mapM.imp fun _ _ => patternOf_yields
  have schemas : List.Forall₂ (Reads S base ·.2 ·) m.2.fields (fields.map Prod.snd) :=
    List.forall₂_map_right_iff.mpr ((fieldsOf_yields two).imp fun _ _ both => both.2)
  exact forall₂_zip texts schemas

end

end ApiReview.Schema
