import ApiReview.Config.Reader
import ApiReview.Proofs.Holding
import ApiReview.Proofs.Success

/-! Fields that settings may have. Reading comes to an end only if it knows each field, those of the
settings as well as those inside of them. -/
namespace ApiReview

namespace Yaml

open Node

section
variable {α β : Type} {d : LoadedDocument} {n : Node} {path : Path} {s : String} {b b' : Nat}

theorem Reading.bind_ok {x : Reading α} {next : α → Reading β} {r : β × Nat}
    (done : (x >>= next) b = .ok r) : ∃ a b', x b = .ok (a,b') ∧ next a b' = .ok r := by
  obtain ⟨⟨a,b'⟩,first,done⟩ := Success.bind_iff.mp done
  exact ⟨a,b',first,done⟩

theorem readField_ok {known : List String} {name : String} (held : n.holdsText s = true)
    (done : readField d known path n b = .ok (name,b')) : name = s ∧ s ∈ known := by
  obtain ⟨m,a,style,rfl,_⟩ := holdsText_iff.mp held
  have inside := Success.mapError_iff.mp done
  simp only at inside
  split at inside
  · next present =>
    cases inside
    exact ⟨rfl,by simpa using present⟩
  · cases inside

theorem readVariant_ok {known : List (String × α)} {a : α} (held : n.holdsText s = true)
    (done : readVariant d known path n b = .ok (a,b')) : s ∈ known.map Prod.fst := by
  obtain ⟨m,_,style,rfl,_⟩ := holdsText_iff.mp held
  have inside : variant known s b = .ok (a,b') := Success.mapError_iff.mp done
  rw [variant] at inside
  cases found : known.lookup s with
  | none =>
    rw [found] at inside
    cases inside
  | some v =>
    obtain ⟨_,_,same⟩ := List.lookup_eq_some_iff.mp found
    exact List.mem_map.mpr ⟨(s,v),by simp [same],rfl⟩

theorem readMapping_ok {expected : String} {read : Path → List (Node × Node) → Reading α}
    {ms : List (String × Json)} {r : α × Nat} (held : n.holds (.object ms) = true)
    (done : readMapping d expected read path n b = .ok r) :
    ∃ pairs, holdMembers ms pairs = true ∧ read path pairs b = .ok r := by
  obtain ⟨m,_,pairs,rfl,members⟩ := holds_object held
  exact ⟨pairs,members,Success.mapError_iff.mp done⟩

end

end Yaml

namespace Config

open Yaml Yaml.Node

theorem setOnce_ok {α : Type} {name : String} {old new : Option α} {read : Reading α} {b b' : Nat}
    (done : setOnce name old read b = .ok (new,b')) : ∃ a, read b = .ok (a,b') := by
  unfold setOnce at done
  split at done
  · cases done
  · rw [map_eq_pure_bind] at done
    obtain ⟨a,b'',read,same⟩ := Reading.bind_ok done
    cases same
    exact ⟨a,read⟩

/-- The settings of a rule have known fields, and their URLs are for known dialects. -/
def SettingsKnown (fields : List (String × Json)) : Prop :=
  (∀ m ∈ fields, m.1 ∈ settingsNames) ∧ ∀ urls, ("schema_urls",.object urls) ∈ fields →
    ∀ m ∈ urls, m.1 ∈ dialects.map Prod.fst

/-- All fields in a tree of settings are known. -/
def FieldsKnown (fields : List (String × Json)) : Prop :=
  (∀ m ∈ fields, m.1 ∈ names) ∧ ∀ rules, ("rules",.object rules) ∈ fields →
    ∀ m ∈ rules, ∀ inner, m.2 = .object inner → SettingsKnown inner

section
variable {d : LoadedDocument} {path : Path} {pairs : List (Node × Node)} {ms : List (String × Json)}
  {b : Nat}

/-- One more field keeps the fields known, if it is and if all is well inside of it. -/
theorem known_cons {known : List String} {key : String} {inside : List (String × Json) → Prop}
    {m : String × Json} (here : m.1 ∈ known) (own : ∀ fields, m = (key,.object fields) → inside fields)
    (behind : (∀ e ∈ ms, e.1 ∈ known) ∧ ∀ fields, (key,.object fields) ∈ ms → inside fields) :
    (∀ e ∈ m :: ms, e.1 ∈ known) ∧ ∀ fields, (key,.object fields) ∈ m :: ms → inside fields := by
  refine ⟨List.forall_mem_cons.mpr ⟨here,behind.1⟩,fun fields member => ?_⟩
  rcases List.mem_cons.mp member with same | member
  · exact own fields same.symm
  · exact behind.2 fields member

theorem readUrls_known {urls : SchemaUrls} {r : SchemaUrls × Nat}
    (held : holdMembers ms pairs = true) (done : readUrls d path urls pairs b = .ok r) :
    ∀ m ∈ ms, m.1 ∈ dialects.map Prod.fst := by
  induction ms generalizing pairs urls b with
  | nil => simp
  | cons m rest ih =>
    obtain ⟨k,n,others,rfl,name,_,later⟩ := holdMembers_cons held
    rw [readUrls] at done
    obtain ⟨dialect,b',first,done⟩ := Reading.bind_ok done
    obtain ⟨url,b',_,done⟩ := Reading.bind_ok done
    exact List.forall_mem_cons.mpr ⟨readVariant_ok name first,ih later done⟩

theorem readSettings_known {f : SettingsFields} {r : RuleSettings × Nat}
    (held : holdMembers ms pairs = true) (done : readSettings d path f pairs b = .ok r) :
    SettingsKnown ms := by
  induction ms generalizing pairs f b with
  | nil => simp [SettingsKnown]
  | cons m rest ih =>
    obtain ⟨k,n,others,rfl,name,value,later⟩ := holdMembers_cons held
    rw [readSettings] at done
    obtain ⟨field,b',first,done⟩ := Reading.bind_ok done
    obtain ⟨rfl,known⟩ := readField_ok name first
    split at done
    · next enabled =>
      obtain ⟨_,b',_,done⟩ := Reading.bind_ok done
      refine known_cons known (fun urls same => ?_) (ih later done)
      simp [same] at enabled
    · split at done
      · next severity =>
        obtain ⟨_,b',_,done⟩ := Reading.bind_ok done
        refine known_cons known (fun urls same => ?_) (ih later done)
        simp [same] at severity
      · obtain ⟨_,b',own,done⟩ := Reading.bind_ok done
        refine known_cons known ?_ (ih later done)
        rintro urls rfl
        obtain ⟨_,mapping⟩ := setOnce_ok own
        obtain ⟨_,members,read⟩ := readMapping_ok value mapping
        exact readUrls_known members read

theorem readRules_known {rules : RuleTable} {r : RuleTable × Nat}
    (held : holdMembers ms pairs = true) (done : readRules d path rules pairs b = .ok r) :
    ∀ m ∈ ms, ∀ inner, m.2 = .object inner → SettingsKnown inner := by
  induction ms generalizing pairs rules b with
  | nil => simp
  | cons m rest ih =>
    obtain ⟨k,n,others,rfl,name,value,later⟩ := holdMembers_cons held
    rw [readRules] at done
    obtain ⟨id,b',_,done⟩ := Reading.bind_ok done
    obtain ⟨settings,b',mapping,done⟩ := Reading.bind_ok done
    refine List.forall_mem_cons.mpr ⟨fun inner same => ?_,ih later done⟩
    obtain ⟨_,members,read⟩ := readMapping_ok (same ▸ value) mapping
    exact readSettings_known members read

theorem readFields_known {f : Fields} {r : Config × Nat}
    (held : holdMembers ms pairs = true) (done : readFields d path f pairs b = .ok r) :
    FieldsKnown ms := by
  induction ms generalizing pairs f b with
  | nil => simp [FieldsKnown]
  | cons m rest ih =>
    obtain ⟨k,n,others,rfl,name,value,later⟩ := holdMembers_cons held
    rw [readFields] at done
    obtain ⟨field,b',first,done⟩ := Reading.bind_ok done
    obtain ⟨rfl,known⟩ := readField_ok name first
    split at done
    · obtain ⟨_,b',own,done⟩ := Reading.bind_ok done
      refine known_cons known ?_ (ih later done)
      rintro rules rfl
      obtain ⟨_,mapping⟩ := setOnce_ok own
      obtain ⟨_,members,read⟩ := readMapping_ok value mapping
      exact readRules_known members read
    · next other =>
      obtain ⟨_,b',_,done⟩ := Reading.bind_ok done
      refine known_cons known (fun rules same => ?_) (ih later done)
      simp [same] at other

end

end Config
end ApiReview
