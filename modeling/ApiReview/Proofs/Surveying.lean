import ApiReview.Proofs.Idle
import ApiReview.Proofs.Shuffling

/-! Gathering for a schema whose own members stand in another order. It comes by the same in another
order, and identifiers lead to the same if none of them is declared for two different schemas. -/
namespace ApiReview.Schema

/-- Finds the same in another order. -/
structure Survey.Shuffled (s s' : Survey) : Prop where
  documents : s.documents.Perm s'.documents
  anchors : s.anchors.Perm s'.anchors
  references : s.references.Perm s'.references
  pointers : s.pointers.Perm s'.pointers

namespace Survey.Shuffled
variable {s s' s'' t t' : Survey}

theorem refl (s : Survey) : s.Shuffled s := ⟨.refl _,.refl _,.refl _,.refl _⟩

theorem trans (one : s.Shuffled s') (two : s'.Shuffled s'') : s.Shuffled s'' where
  documents := one.documents.trans two.documents
  anchors := one.anchors.trans two.anchors
  references := one.references.trans two.references
  pointers := one.pointers.trans two.pointers

theorem append (one : s.Shuffled s') (two : t.Shuffled t') : (s ++ t).Shuffled (s' ++ t') where
  documents := one.documents.append two.documents
  anchors := one.anchors.append two.anchors
  references := one.references.append two.references
  pointers := one.pointers.append two.pointers

theorem swap (s t u : Survey) : (s ++ (t ++ u)).Shuffled (t ++ (s ++ u)) where
  documents := List.perm_append_comm_assoc ..
  anchors := List.perm_append_comm_assoc ..
  references := List.perm_append_comm_assoc ..
  pointers := List.perm_append_comm_assoc ..

theorem carries {x x' y y' : Except Error Survey} (one : Carries Shuffled x x')
    (two : Carries Shuffled y y') :
    Carries Shuffled (do return (← x) ++ (← y)) (do return (← x') ++ (← y')) :=
  one.append append two

end Survey.Shuffled

section
variable {base : Uri} {ms ms' : List (String × Json)}

theorem surveyMembers_perm (perm : ms.Perm ms') :
    Carries Survey.Shuffled (surveyMembers base ms) (surveyMembers base ms') := by
  induction perm with
  | nil => exact .ok (.refl _)
  | cons m _ ih =>
    obtain ⟨name,v⟩ := m
    rw [surveyMembers_cons,surveyMembers_cons]
    exact Survey.Shuffled.carries (.refl Survey.Shuffled.refl _) ih
  | swap m m' rest =>
    obtain ⟨name,v⟩ := m
    obtain ⟨name',v'⟩ := m'
    intro s done
    simp only [surveyMembers_cons] at done ⊢
    obtain ⟨found',second,done⟩ := Success.bind_iff.mp done
    obtain ⟨_,inner,⟨⟩⟩ := Success.bind_iff.mp done
    obtain ⟨found,first,inner⟩ := Success.bind_iff.mp inner
    obtain ⟨others,last,⟨⟩⟩ := Success.bind_iff.mp inner
    refine ⟨_,?_,.swap found' found others⟩
    rw [first,second,last]
    rfl
  | trans _ _ one two =>
    intro s done
    obtain ⟨s',done',first⟩ := one s done
    obtain ⟨s'',done'',second⟩ := two s' done'
    exact ⟨s'',done'',first.trans second⟩

variable (shuffles : Json.Shuffles ms ms')
include shuffles

/-- A schema that declares nothing contributes nothing but what stands in it. -/
theorem surveySelf_shuffles (nameless : stringMember? "id" ms = none) :
    surveySelf base ms' = surveySelf base ms := by
  have self : selfId? ms = none := by simp [selfId?,nameless]
  have anchor : anchor? ms = none := by simp [anchor?,nameless]
  unfold surveySelf
  simp only [selfId?_shuffles shuffles,anchor?_shuffles shuffles,stringMember?_shuffles shuffles,
    self,anchor]
  rfl

theorem survey_shuffles (nameless : stringMember? "id" ms = none) :
    Carries Survey.Shuffled (survey base (.object ms)) (survey base (.object ms')) := by
  unfold survey
  rw [baseWithin_shuffles shuffles]
  refine .bind (R := Eq) (fun inner done => ⟨inner,done,rfl⟩) ?_
  rintro inner _ rfl
  rw [surveySelf_shuffles shuffles nameless]
  exact Survey.Shuffled.carries (.refl Survey.Shuffled.refl _) (surveyMembers_perm shuffles.perm)

end

/-! What is gathered. -/

/-- A schema whose references stay inside, and that has no identifier itself, comes with the draft
and with what is declared in it. -/
theorem gatherFor_inward {schema : Json} (inward : Inward schema)
    (home : baseWithin defaultBase ((schema.members?).getD []) = .ok defaultBase)
    {retrieve : String → Except String Json} {r : Resources} : gatherFor retrieve schema = .ok r ↔
      ∃ found others, survey defaultBase schema = .ok found ∧
        surveyPointers defaultBase schema memoryLimit [] found.pointers = .ok others ∧
        r = (alone schema).add found := by
  have once : gatherFor retrieve schema =
      (surveyAll ⟨defaultBase,schema⟩).map (alone schema).add :=
    gatherFor_once retrieve home (surveyAll_inward inward)
  have bare {found others : Survey} (surveyed : survey defaultBase schema = .ok found)
      (done : surveyPointers defaultBase schema memoryLimit [] found.pointers = .ok others) :
      (alone schema).add (found ++ others) = (alone schema).add found := by
    have sought : ∀ p ∈ found.pointers, Sought defaultBase schema p := fun p => .here surveyed
    obtain ⟨documents,anchors⟩ := surveyPointers_bare memoryLimit [] sought others done
    change Resources.mk ((found.documents ++ others.documents) ++ _)
      ((found.anchors ++ others.anchors) ++ _) = _
    rw [documents,anchors,List.append_nil,List.append_nil]
    rfl
  rw [once,Success.map_iff]
  constructor
  · rintro ⟨s,surveyed,rfl⟩
    obtain ⟨found,one,later⟩ := Success.bind_iff.mp surveyed
    obtain ⟨others,two,same⟩ := Success.bind_iff.mp later
    cases same
    exact ⟨found,others,one,two,bare one two⟩
  · rintro ⟨found,others,one,two,rfl⟩
    exact ⟨found ++ others,Success.bind_iff.mpr ⟨found,one,Success.bind_iff.mpr ⟨others,two,rfl⟩⟩,
      bare one two⟩

/-! Identifiers that are declared once. -/

/-- Nothing is kept under one key but one value. -/
def Single {κ : Type} (list : List (κ × Json)) : Prop :=
  ∀ key v w, (key,v) ∈ list → (key,w) ∈ list → v = w

/-- No identifier, and no name of a part, is declared for two different schemas. -/
def Unambiguous (schema : Json) : Prop := ∀ found, survey defaultBase schema = .ok found →
  Single found.documents ∧ Single found.anchors

section
variable {κ : Type} [BEq κ] [LawfulBEq κ] {list list' : List (κ × Json)}

theorem mem_of_lookup {key : κ} {v : Json} (found : list.lookup key = some v) : (key,v) ∈ list := by
  obtain ⟨before,after,same,_⟩ := List.lookup_eq_some_iff.mp found
  rw [same]
  simp

theorem Single.lookup_perm (single : Single list) (perm : list.Perm list') (key : κ) :
    list'.lookup key = list.lookup key := by
  cases found : list'.lookup key with
  | some v =>
    have listed := perm.mem_iff.mpr (mem_of_lookup found)
    cases other : list.lookup key with
    | some w => rw [single key v w listed (mem_of_lookup other)]
    | none => simpa using List.lookup_eq_none_iff.mp other _ listed
  | none =>
    refine (List.lookup_eq_none_iff.mpr fun m listed => ?_).symm
    exact List.lookup_eq_none_iff.mp found m (perm.mem_iff.mp listed)

end

/-! Where references lead. -/

section
variable (schema schema' : Json)

/-- The same place, or the whole document, which is another one then. -/
def Exchanged (p p' : Uri × Json) : Prop := p' = p ∨ p.2 = schema ∧ p' = (p.1,schema')

def TargetExchanged (t t' : Target) : Prop := t' = t ∨ t.schema = schema ∧ t' = ⟨t.base,schema'⟩

end

section
variable {ms ms' : List (String × Json)}

section
variable (shuffles : Json.Shuffles ms ms')
include shuffles

theorem walk_shuffles (pointer : String) (tokens : List String) (base : Uri) :
    Carries (Exchanged (.object ms) (.object ms')) (walk pointer tokens base (.object ms))
      (walk pointer tokens base (.object ms')) := by
  cases tokens with
  | nil => exact .ok (.inr ⟨rfl,rfl⟩)
  | cons token rest =>
    have same : walk pointer (token :: rest) base (.object ms') =
        walk pointer (token :: rest) base (.object ms) := by
      unfold walk
      rw [shuffles.lookup,baseWithin_shuffles shuffles]
    rw [same]
    exact .refl (fun _ => .inl rfl) _

theorem follow_shuffles (fragment : String) (base : Uri) :
    Carries (Exchanged (.object ms) (.object ms')) (follow fragment base (.object ms))
      (follow fragment base (.object ms')) := by
  unfold follow
  split
  · exact .refl (fun _ => .inl rfl) _
  · exact walk_shuffles shuffles fragment _ base

end

variable {found found' : Survey} (shuffled : found.Shuffled found')
  (documents : Single found.documents) (anchors : Single found.anchors)
include shuffled

section
include documents

theorem document_shuffles (uri : Uri) :
    Carries (fun w w' => w' = w ∨ w = .object ms ∧ w' = .object ms')
      (((alone (.object ms)).add found).document uri)
      (((alone (.object ms')).add found').document uri) := by
  unfold Resources.document Resources.add alone
  simp only [List.lookup_append,documents.lookup_perm shuffled.documents]
  cases found.documents.lookup uri.text with
  | some v => exact .ok (.inl rfl)
  | none =>
    simp only [Option.none_or,List.lookup_cons]
    cases uri.text == defaultBase.text with
    | true => exact .ok (.inr ⟨rfl,rfl⟩)
    | false => exact .refl (fun _ => .inl rfl) _

end

variable (shuffles : Json.Shuffles ms ms')
include shuffles anchors

theorem anchor_shuffles {w w' : Json} (here : w' = w ∨ w = .object ms ∧ w' = .object ms')
    (uri : Uri) (name : String) : ((alone (.object ms')).add found').anchor uri w' name =
      ((alone (.object ms)).add found).anchor uri w name := by
  have own : baseWithin uri ((w'.members?).getD []) = baseWithin uri ((w.members?).getD []) := by
    rcases here with rfl | ⟨rfl,rfl⟩
    · rfl
    · exact baseWithin_shuffles shuffles uri
  unfold Resources.anchor Resources.add alone
  rw [own]
  simp only [List.lookup_append,anchors.lookup_perm shuffled.anchors]

include documents

/-- Identifiers lead to the same, but for the schema itself. -/
theorem reorders_shuffles : Reorders ((alone (.object ms)).add found)
    ((alone (.object ms')).add found') (.object ms) (.object ms') where
  reads := readAlike_shuffles shuffles
  target uri := by
    change Carries (TargetExchanged (.object ms) (.object ms')) _ _
    unfold Resources.target
    refine (document_shuffles shuffled documents _).bind fun w w' here => ?_
    have last (p p' : Uri × Json) (exchanged : Exchanged (.object ms) (.object ms') p p') :
        Carries (TargetExchanged (.object ms) (.object ms')) (.ok ⟨p.1,p.2⟩) (.ok ⟨p'.1,p'.2⟩) := by
      rcases exchanged with rfl | ⟨same,rfl⟩
      · exact .ok (.inl rfl)
      · exact .ok (.inr ⟨same,rfl⟩)
    dsimp only
    split
    · refine Carries.bind ?_ last
      rcases here with rfl | ⟨rfl,rfl⟩
      · exact .refl (fun _ => .inl rfl) _
      · exact follow_shuffles shuffles _ _
    · split
      · refine Carries.bind (R := Exchanged (.object ms) (.object ms')) (.ok ?_) last
        rcases here with rfl | ⟨rfl,rfl⟩
        · exact .inl rfl
        · exact .inr ⟨rfl,rfl⟩
      · rw [anchor_shuffles shuffled anchors shuffles here]
        exact Carries.bind (.refl (fun _ => .inl rfl) _) last

end

/-! What holds of the one order holds of the other one. -/

/-- Something holds wherever the pointers lead that are followed when a schema is gathered. -/
def AllLed (schema : Json) (P : Uri → Json → Prop) : Prop :=
  ∀ p, Sought defaultBase schema p → ∀ here v, follow p defaultBase schema = .ok (here,v) → P here v

/-- Wherever references lead, the identifiers and references there can be read. -/
def Legible (schema : Json) : Prop := AllLed schema fun here v => ∃ s, survey here v = .ok s

/-- If all that is led to is legible, pointers are followed to the end. -/
theorem surveyPointers_legible {schema : Json} (legible : Legible schema) (n : Nat)
    (seen : List String) {pointers : List String}
    (sought : ∀ p ∈ pointers, Sought defaultBase schema p) :
    ∃ s, surveyPointers defaultBase schema n seen pointers = .ok s := by
  refine surveyPointers_induct (Q := fun x => ∃ s, x = .ok s) ⟨_,rfl⟩
    (fun p here v due led later kept => ?_) n seen sought
  obtain ⟨found,one⟩ := legible p due here v led
  obtain ⟨others,two⟩ := kept found one
  exact ⟨_,Success.bind_iff.mpr ⟨found,one,Success.bind_iff.mpr ⟨others,two,rfl⟩⟩⟩

theorem Single.perm {κ : Type} {list list' : List (κ × Json)} (single : Single list)
    (perm : list.Perm list') : Single list' := fun key v w one two =>
  single key v w (perm.mem_iff.mpr one) (perm.mem_iff.mpr two)

section
variable {ms ms' : List (String × Json)} (shuffles : Json.Shuffles ms ms')
include shuffles

theorem Near.shuffled (near : Near (.object ms)) : Near (.object ms') := by
  intro inner nested
  cases nested with
  | self =>
    intro name known text value
    exact near ms (.self _) name known text (stringMember?_shuffles shuffles name ▸ value)
  | inside member under deeper =>
    exact near inner (.inside (shuffles.perm.mem_iff.mpr member) under deeper)

variable (nameless : stringMember? "id" ms = none)
include nameless

theorem Sought.shuffled {p : String} (sought : Sought defaultBase (.object ms) p) :
    Sought defaultBase (.object ms') p := by
  induction sought with
  | here surveyed member =>
    obtain ⟨s',surveyed',shuffled⟩ := survey_shuffles shuffles nameless _ surveyed
    exact .here surveyed' (shuffled.pointers.mem_iff.mp member)
  | there _ led surveyed member ih =>
    obtain ⟨_,led',rfl | ⟨rfl,rfl⟩⟩ := follow_shuffles shuffles _ _ _ led
    · exact .there ih led' surveyed member
    · obtain ⟨s',surveyed',shuffled⟩ := survey_shuffles shuffles nameless _ surveyed
      exact .there ih led' surveyed' (shuffled.pointers.mem_iff.mp member)

theorem AllLed.shuffled {P : Uri → Json → Prop} (all : AllLed (.object ms) P)
    (exchanged : ∀ here, P here (.object ms) → P here (.object ms')) : AllLed (.object ms') P := by
  have nameless' : stringMember? "id" ms' = none := (stringMember?_shuffles shuffles _).trans nameless
  intro p sought here v led
  have sought' := sought.shuffled shuffles.symm nameless'
  obtain ⟨_,led',rfl | ⟨rfl,rfl⟩⟩ := follow_shuffles shuffles.symm _ _ _ led
  · exact all p sought' here v led'
  · exact exchanged here (all p sought' here _ led')

theorem Inward.shuffled (inward : Inward (.object ms)) : Inward (.object ms') :=
  ⟨inward.own.shuffled shuffles,
    AllLed.shuffled shuffles nameless inward.led fun _ near => near.shuffled shuffles⟩

theorem Legible.shuffled (legible : Legible (.object ms)) : Legible (.object ms') := by
  refine AllLed.shuffled shuffles nameless legible fun here found => ?_
  obtain ⟨s,surveyed⟩ := found
  obtain ⟨s',surveyed',_⟩ := survey_shuffles shuffles nameless s surveyed
  exact ⟨s',surveyed'⟩

theorem Unambiguous.shuffled (single : Unambiguous (.object ms)) : Unambiguous (.object ms') := by
  have nameless' : stringMember? "id" ms' = none := (stringMember?_shuffles shuffles _).trans nameless
  intro found' surveyed'
  obtain ⟨found,surveyed,shuffled⟩ := survey_shuffles shuffles.symm nameless' found' surveyed'
  obtain ⟨documents,anchors⟩ := single found surveyed
  exact ⟨documents.perm shuffled.documents.symm,anchors.perm shuffled.anchors.symm⟩

end

/-! Schemas that stand by themselves declare nothing. -/

theorem unambiguous_of_stands {schema : Json} (holds : stands schema = true) : Unambiguous schema := by
  intro found surveyed
  obtain ⟨ps,same⟩ := survey_stands defaultBase holds
  cases surveyed.symm.trans same
  exact ⟨nofun,nofun⟩

theorem legible_of_stands {schema : Json} (holds : stands schema = true) : Legible schema := by
  intro p _ here v led
  obtain ⟨ps,found⟩ := survey_stands here (follow_inside stands_hereditary holds led)
  exact ⟨_,found⟩

end ApiReview.Schema
