import ApiReview.Schema.Build
import ApiReview.Proofs.Success
import ApiReview.Proofs.Tree

/-! What stands inside values. A survey is told schema by schema (`Additive.survey`), and what
pointers ask for pointer by pointer. So a property that passes on to all that stands in a value holds
of every document that is gathered for a schema and of whatever references lead to, if the documents
have it that are at hand. -/
namespace ApiReview

namespace Json

def elements (v : Json) : List Json := v.items?.getD []

def fields (v : Json) : List (String × Json) := v.members?.getD []

/-- An item of an array, or what a member of an object holds. -/
def Child (v w : Json) : Prop := v ∈ w.elements ∨ ∃ m ∈ w.fields, m.2 = v

/-- A property that passes on from a value to what stands in it. -/
def Hereditary (P : Json → Prop) : Prop := ∀ v w : Json, v.Child w → P w → P v

theorem child_of_item {v : Json} {vs : List Json} (member : v ∈ vs) : v.Child (.array vs) :=
  .inl member

theorem child_of_member {m : String × Json} {ms : List (String × Json)} (member : m ∈ ms) :
    m.2.Child (.object ms) := .inr ⟨m,member,rfl⟩

theorem child_of_lookup {name : String} {v : Json} {ms : List (String × Json)}
    (found : lookup name ms = some v) : v.Child (.object ms) :=
  child_of_member (mem_of_lookup found)

theorem Hereditary.items {P : Json → Prop} (passes : Hereditary P) {vs : List Json}
    (holds : P (.array vs)) : ∀ v ∈ vs, P v :=
  fun _ member => passes _ _ (child_of_item member) holds

theorem Hereditary.members {P : Json → Prop} (passes : Hereditary P) {ms : List (String × Json)}
    (holds : P (.object ms)) : ∀ m ∈ ms, P m.2 :=
  fun _ member => passes _ _ (child_of_member member) holds

theorem depth_le_itemsDepth {v : Json} {vs : List Json} (member : v ∈ vs) :
    v.depth ≤ itemsDepth vs := by
  induction vs with
  | nil => cases member
  | cons w rest ih =>
    rw [itemsDepth]
    rcases List.mem_cons.mp member with rfl | later
    · exact Nat.le_max_left _ _
    · exact Nat.le_trans (ih later) (Nat.le_max_right _ _)

theorem depth_le_membersDepth {m : String × Json} {ms : List (String × Json)} (member : m ∈ ms) :
    m.2.depth ≤ membersDepth ms := by
  induction ms with
  | nil => cases member
  | cons n rest ih =>
    rw [membersDepth]
    rcases List.mem_cons.mp member with rfl | later
    · exact Nat.le_max_left _ _
    · exact Nat.le_trans (ih later) (Nat.le_max_right _ _)

theorem Child.depth_lt {v w : Json} (child : v.Child w) : v.depth < w.depth := by
  rcases child with item | ⟨m,member,rfl⟩
  · cases w with
    | array vs => exact Nat.lt_succ_of_le (depth_le_itemsDepth item)
    | _ => cases item
  · cases w with
    | object ms => exact Nat.lt_succ_of_le (depth_le_membersDepth member)
    | _ => cases member

theorem distinct_hereditary : Hereditary Distinct := by
  rintro v w (item | ⟨m,member,rfl⟩) distinct
  · cases w with
    | array vs => exact distinctItems_iff.mp distinct v item
    | _ => cases item
  · cases w with
    | object ms => exact distinctMembers_iff.mp distinct.2 m member
    | _ => cases member

end Json

namespace Schema
variable {P : Json → Prop}

/-! Schemas in schemas. -/

/-- The schemas that stand under a keyword. -/
def schemasUnder (name : String) (v : Json) : List Json :=
  match position? name with
  | some .schema => [v]
  | some .schemas => v.elements
  | some .either => v :: v.elements
  | some .fields => v.fields.map Prod.snd
  | none => []

theorem depth_schemasUnder {name : String} {v w : Json} (under : w ∈ schemasUnder name v) :
    w.depth ≤ v.depth := by
  unfold schemasUnder at under
  split at under
  · exact Nat.le_of_eq (congrArg Json.depth (List.mem_singleton.mp under))
  · exact Nat.le_of_lt (Json.Child.depth_lt (.inl under))
  · rcases List.mem_cons.mp under with rfl | item
    · exact Nat.le_refl _
    · exact Nat.le_of_lt (Json.Child.depth_lt (.inl item))
  · obtain ⟨m,member,rfl⟩ := List.mem_map.mp under
    exact Nat.le_of_lt (Json.Child.depth_lt (.inr ⟨m,member,rfl⟩))
  · cases under

theorem schemasUnder_inside (passes : Json.Hereditary P) {name : String} {v w : Json} (holds : P v)
    (under : w ∈ schemasUnder name v) : P w := by
  unfold schemasUnder at under
  split at under
  · rwa [List.mem_singleton.mp under]
  · exact passes _ _ (.inl under) holds
  · rcases List.mem_cons.mp under with rfl | item
    · exact holds
    · exact passes _ _ (.inl item) holds
  · obtain ⟨m,member,rfl⟩ := List.mem_map.mp under
    exact passes _ _ (.inr ⟨m,member,rfl⟩) holds
  · cases under

/-- What one member of a schema contributes and asks for. -/
def surveyUnder (base : Uri) (name : String) (v : Json) : Except Error Survey :=
  match position? name with
  | some .schema => survey base v
  | some .schemas => surveyArray base v
  | some .either => do return (← survey base v) ++ (← surveyArray base v)
  | some .fields => surveyFields base v
  | none => return {}

theorem surveyMembers_cons (base : Uri) (name : String) (v : Json) (rest : List (String × Json)) :
    surveyMembers base ((name,v) :: rest) =
      do return (← surveyUnder base name v) ++ (← surveyMembers base rest) := by
  unfold surveyUnder
  rw [surveyMembers]
  cases position? name with
  | none => rfl
  | some position =>
    cases position with
    | either =>
      cases survey base v with
      | error e => rfl
      | ok s => cases surveyArray base v <;> rfl
    | _ => rfl

/-! Surveys that are put together. -/

/-- Holds of a survey that finds nothing, and of one that is put together from two if it holds of
both. -/
structure Additive (Q : Except Error Survey → Prop) : Prop where
  empty : Q (.ok {})
  append : ∀ {x y : Except Error Survey}, Q x → Q y → Q (do return (← x) ++ (← y))

namespace Additive
variable {Q : Except Error Survey → Prop} (additive : Additive Q) {base : Uri} {v : Json}
  {ms : List (String × Json)}
include additive

theorem items {vs : List Json} (each : ∀ v ∈ vs, Q (survey base v)) : Q (surveyItems base vs) := by
  induction vs with
  | nil => exact additive.empty
  | cons v rest ih =>
    obtain ⟨here,later⟩ := List.forall_mem_cons.mp each
    exact additive.append here (ih later)

theorem values (each : ∀ m ∈ ms, Q (survey base m.2)) : Q (surveyValues base ms) := by
  induction ms with
  | nil => exact additive.empty
  | cons m rest ih =>
    obtain ⟨here,later⟩ := List.forall_mem_cons.mp each
    exact additive.append here (ih later)

theorem array (each : ∀ w ∈ v.elements, Q (survey base w)) : Q (surveyArray base v) := by
  cases v with
  | array vs => exact additive.items each
  | _ => exact additive.empty

theorem under {name : String} (each : ∀ w ∈ schemasUnder name v, Q (survey base w)) :
    Q (surveyUnder base name v) := by
  unfold schemasUnder at each
  unfold surveyUnder
  generalize position? name = position at each ⊢
  rcases position with _ | (_ | _ | _ | _)
  · exact additive.empty
  · exact each v (by simp)
  · exact additive.array each
  · obtain ⟨here,later⟩ := List.forall_mem_cons.mp each
    exact additive.append here (additive.array later)
  · cases v with
    | object ms => exact additive.values fun m member => each m.2 (List.mem_map_of_mem member)
    | _ => exact additive.empty

theorem members (each : ∀ m ∈ ms, ∀ w ∈ schemasUnder m.1 m.2, Q (survey base w)) :
    Q (surveyMembers base ms) := by
  induction ms with
  | nil => exact additive.empty
  | cons m rest ih =>
    obtain ⟨name,v⟩ := m
    obtain ⟨here,later⟩ := List.forall_mem_cons.mp each
    rw [surveyMembers_cons]
    exact additive.append (additive.under here) (ih later)

/-- What passes on to the schemas under keywords, and tells what an object comes to by itself, tells
what a survey comes to. The induction is on the depth of the schema, since a keyword may have a
schema or several. -/
theorem survey (passes : ∀ ms, P (.object ms) → ∀ m ∈ ms, ∀ w ∈ schemasUnder m.1 m.2, P w)
    (self : ∀ ms, P (.object ms) → ∀ base, Q (surveySelf base ms))
    (astray : ∀ ms, P (.object ms) → ∀ base e, baseWithin base ms = .error e → Q (.error e))
    (holds : P v) (base : Uri) : Q (Schema.survey base v) := by
  induction deep : v.depth using Nat.strongRecOn generalizing v base with
  | ind n ih =>
    subst deep
    cases v with
    | object ms =>
      unfold Schema.survey
      cases found : baseWithin base ms with
      | error e => exact astray ms holds base e found
      | ok home =>
        refine additive.append (self ms holds home) (additive.members fun m member w under => ?_)
        have lower := Nat.lt_of_le_of_lt (depth_schemasUnder under)
          (Json.child_of_member member).depth_lt
        exact ih w.depth lower (passes ms holds m member w under) home rfl
    | _ => exact additive.empty

end Additive

/-- The pointers that are followed in a document when it is gathered: those that stand where schemas
stand in it, and those that stand in what pointers lead to. -/
inductive Sought (base : Uri) (document : Json) : String → Prop where
  | here {s : Survey} {p : String} :
    survey base document = .ok s → p ∈ s.pointers → Sought base document p
  | there {s : Survey} {p q : String} {inner : Uri} {v : Json} : Sought base document p →
    follow p base document = .ok (inner,v) → survey inner v = .ok s → q ∈ s.pointers →
    Sought base document q

/-- Pointers are looked at one after the other; what holds if there are none holds of all of them if
each that leads somewhere keeps it. -/
theorem surveyPointers_induct {base : Uri} {document : Json} {Q : Except Error Survey → Prop}
    (none : Q (.ok {}))
    (more : ∀ p here v, Sought base document p → follow p base document = .ok (here,v) →
      ∀ later : Survey → Except Error Survey,
        (∀ found, survey here v = .ok found → Q (later found)) → Q (do
          let found ← survey here v
          let others ← later found
          return { found with documents := [], anchors := [] } ++ { others with pointers := [] }))
    (n : Nat) (seen : List String) {pointers : List String}
    (sought : ∀ p ∈ pointers, Sought base document p) :
    Q (surveyPointers base document n seen pointers) := by
  induction n generalizing seen pointers with
  | zero => cases pointers <;> exact none
  | succ n ih =>
    cases pointers with
    | nil => exact none
    | cons p rest =>
      obtain ⟨first,others⟩ := List.forall_mem_cons.mp sought
      unfold surveyPointers
      split
      · exact ih seen others
      · split
        · exact ih _ others
        · next here v led =>
          refine more p here v first led _ fun found one => ih _ fun q member => ?_
          rcases List.mem_append.mp member with old | new
          · exact others q old
          · exact .there first led one new

/-- Pointers lead to places of the document, which contribute nothing that is not known. -/
theorem surveyPointers_bare {base : Uri} {document : Json} (n : Nat) (seen : List String)
    {pointers : List String} (sought : ∀ p ∈ pointers, Sought base document p) (s : Survey)
    (done : surveyPointers base document n seen pointers = .ok s) :
    s.documents = [] ∧ s.anchors = [] := by
  refine surveyPointers_induct (Q := fun x => ∀ s, x = .ok s → s.documents = [] ∧ s.anchors = [])
    ?_ (fun p here v _ _ later kept s done => ?_) n seen sought s done
  · rintro s ⟨⟩
    exact ⟨rfl,rfl⟩
  · obtain ⟨found,one,done⟩ := Success.bind_iff.mp done
    obtain ⟨others,two,same⟩ := Success.bind_iff.mp done
    cases same
    exact ⟨(kept found one others two).1,(kept found one others two).2⟩

/-! What has a property. -/

/-- All documents and named parts of a survey have a property. -/
def Survey.All (P : Json → Prop) (s : Survey) : Prop :=
  (∀ d ∈ s.documents, P d.2) ∧ ∀ a ∈ s.anchors, P a.2

def Resources.All (P : Json → Prop) (r : Resources) : Prop :=
  (∀ d ∈ r.documents, P d.2) ∧ ∀ a ∈ r.anchors, P a.2

theorem Survey.all_append {s t : Survey} (one : s.All P) (two : t.All P) : (s ++ t).All P :=
  ⟨fun d member => (List.mem_append.mp member).elim (one.1 d) (two.1 d),
    fun a member => (List.mem_append.mp member).elim (one.2 a) (two.2 a)⟩

theorem Survey.all_empty : ({} : Survey).All P := ⟨by simp,by simp⟩

theorem Survey.all_foldl {list : List Survey} {s : Survey} (first : s.All P)
    (each : ∀ t ∈ list, t.All P) : (list.foldl (· ++ ·) s).All P := by
  induction list generalizing s with
  | nil => exact first
  | cons t rest ih =>
    exact ih (all_append first (each t List.mem_cons_self))
      fun u later => each u (List.mem_cons_of_mem t later)

theorem surveyReference_all {base : Uri} {text : String} {s : Survey}
    (done : surveyReference base text = .ok s) : s.All P := by
  unfold surveyReference at done
  split at done
  · cases done
    exact Survey.all_empty
  · split at done
    · cases done
      exact ⟨by simp,by simp⟩
    · obtain ⟨uri,_,done⟩ := Success.bind_iff.mp done
      cases done
      exact ⟨by simp,by simp⟩

theorem surveySelf_all {base : Uri} {ms : List (String × Json)} (holds : P (.object ms))
    {s : Survey} (done : surveySelf base ms = .ok s) : s.All P := by
  obtain ⟨referred,each,done⟩ := Success.bind_iff.mp done
  cases done
  refine Survey.all_foldl ⟨fun d member => ?_,fun a member => ?_⟩ fun t member => ?_
  · split at member
    · obtain rfl := List.mem_singleton.mp member
      exact holds
    · cases member
  · obtain ⟨_,_,rfl⟩ := List.mem_map.mp member
    exact holds
  · obtain ⟨text,_,one⟩ := Success.mem_mapM each member
    exact surveyReference_all one

/-- A survey has a property if it comes to a result. -/
theorem Survey.all_additive : Additive fun found => ∀ s, found = .ok s → s.All P where
  empty s done := by
    cases done
    exact Survey.all_empty
  append one two s done := by
    obtain ⟨own,first,done⟩ := Success.bind_iff.mp done
    obtain ⟨others,second,done⟩ := Success.bind_iff.mp done
    cases done
    exact Survey.all_append (one own first) (two others second)

section
variable (passes : Json.Hereditary P)
include passes

/-- What the tokens of a pointer lead to is inside. -/
theorem walk_inside {pointer : String} {tokens : List String} {base here : Uri} {v w : Json}
    (holds : P v) (led : walk pointer tokens base v = .ok (here,w)) : P w := by
  induction tokens generalizing base v with
  | nil =>
    cases led
    exact holds
  | cons token rest ih =>
    cases v with
    | object ms =>
      simp only [walk] at led
      split at led
      · next u found =>
        obtain ⟨_,_,led⟩ := Success.bind_iff.mp led
        exact ih (passes _ _ (Json.child_of_lookup found) holds) led
      · cases led
    | array vs =>
      simp only [walk] at led
      split at led
      · cases led
      · split at led
        · next item =>
          exact ih (passes _ _ (Json.child_of_item (List.mem_of_getElem? item)) holds) led
        · cases led
    | _ => cases led

theorem follow_inside {fragment : String} {base here : Uri} {v w : Json} (holds : P v)
    (led : follow fragment base v = .ok (here,w)) : P w := by
  unfold follow at led
  split at led
  · cases led
  · exact walk_inside passes holds led

theorem survey_all {base : Uri} {v : Json} (holds : P v) {s : Survey}
    (done : survey base v = .ok s) : s.All P := by
  refine Survey.all_additive.survey (P := P) (fun ms holds m member w under => ?_)
    (fun ms holds base s done => surveySelf_all holds done) (fun _ _ _ _ _ _ failed => ?_) holds base
    s done
  · exact schemasUnder_inside passes (passes _ _ (Json.child_of_member member) holds) under
  · cases failed

theorem surveyAll_all {p : Pending} {s : Survey} (holds : P p.schema)
    (done : surveyAll p = .ok s) : s.All P := by
  obtain ⟨own,one,done⟩ := Success.bind_iff.mp done
  obtain ⟨others,two,done⟩ := Success.bind_iff.mp done
  cases done
  obtain ⟨documents,anchors⟩ := surveyPointers_bare memoryLimit [] (fun _ => .here one) others two
  exact Survey.all_append (survey_all passes holds one) ⟨by simp [documents],by simp [anchors]⟩

section
variable {retrieve : String → Except String Json} (at_hand : ∀ uri v, retrieve uri = .ok v → P v)
include at_hand

omit passes in
theorem fetch_all {r r' : Resources} {pending pending' : List Pending} {uri : Uri}
    (all : r.All P) (each : ∀ p ∈ pending, P p.schema)
    (done : Resources.fetch retrieve (r,pending) uri = .ok (r',pending')) :
    r'.All P ∧ ∀ p ∈ pending', P p.schema := by
  unfold Resources.fetch at done
  dsimp only at done
  split at done
  · cases done
    exact ⟨all,each⟩
  · split at done
    · cases done
    · next v had =>
      cases done
      have holds := at_hand _ _ had
      exact ⟨⟨List.forall_mem_cons.mpr ⟨holds,all.1⟩,all.2⟩,
        List.forall_mem_append.mpr ⟨each,by simpa using holds⟩⟩

theorem gather_all {n : Nat} {pending : List Pending} {r r' : Resources} (all : r.All P)
    (each : ∀ p ∈ pending, P p.schema) (done : Resources.gather retrieve n pending r = .ok r') :
    r'.All P := by
  induction n generalizing pending r with
  | zero =>
    cases pending <;>
    · cases done
      exact all
  | succ n ih =>
    cases pending with
    | nil =>
      cases done
      exact all
    | cons p rest =>
      unfold Resources.gather at done
      obtain ⟨found,one,done⟩ := Success.bind_iff.mp done
      obtain ⟨⟨r₁,pending₁⟩,two,done⟩ := Success.bind_iff.mp done
      have surveyed : (found.foldl (· ++ ·) ({} : Survey)).All P := by
        refine Survey.all_foldl Survey.all_empty fun s member => ?_
        obtain ⟨q,listed,own⟩ := Success.mem_mapM one member
        exact surveyAll_all passes (each q listed) own
      have added : (r.add (found.foldl (· ++ ·) ({} : Survey))).All P :=
        ⟨List.forall_mem_append.mpr ⟨surveyed.1,all.1⟩,List.forall_mem_append.mpr ⟨surveyed.2,all.2⟩⟩
      have fetched : r₁.All P ∧ ∀ p ∈ pending₁, P p.schema := by
        refine Success.foldlM_invariant (fun state : Resources × List Pending =>
          state.1.All P ∧ ∀ p ∈ state.2, P p.schema) (fun state uri state' kept step => ?_)
          ⟨added,by simp⟩ two
        exact fetch_all at_hand kept.1 kept.2 step
      exact ih fetched.1 fetched.2 done

/-- All that is gathered for a schema has a property that the schema has, if what is at hand does. -/
theorem gatherFor_all (draft : P Bundled.Draft4.applied) {schema : Json} (holds : P schema)
    {r : Resources} (done : gatherFor retrieve schema = .ok r) : r.All P := by
  obtain ⟨base,_,done⟩ := Success.bind_iff.mp done
  refine gather_all passes at_hand ⟨?_,by simp [draftResources]⟩ (by simpa using holds) done
  simpa [draftResources] using ⟨holds,draft⟩

end

/-- What an identifier leads to has a property that all documents have. -/
theorem Resources.All.target {r : Resources} (all : r.All P) {uri : Uri} {t : Target}
    (led : r.target uri = .ok t) : P t.schema := by
  have listed {κ : Type} [BEq κ] [LawfulBEq κ] {key : κ} {v : Json} {list : List (κ × Json)}
      (each : ∀ d ∈ list, P d.2) (found : list.lookup key = some v) : P v := by
    obtain ⟨before,after,rfl,_⟩ := List.lookup_eq_some_iff.mp found
    exact each (key,v) (by simp)
  obtain ⟨document,known,led⟩ := Success.bind_iff.mp led
  have holds : P document := by
    unfold Resources.document at known
    split at known
    · next found =>
      cases known
      exact listed all.1 found
    · cases known
  dsimp only at led
  split at led
  · obtain ⟨⟨base,schema⟩,place,done⟩ := Success.bind_iff.mp led
    cases done
    exact follow_inside passes holds place
  · split at led
    · cases led
      exact holds
    · obtain ⟨⟨base,schema⟩,place,done⟩ := Success.bind_iff.mp led
      cases done
      obtain ⟨own,_,place⟩ := Success.bind_iff.mp place
      split at place
      · next found =>
        cases place
        rw [Option.orElse_eq_orElse,Option.orElse_eq_or,Option.or_eq_some_iff] at found
        rcases found with found | ⟨_,found⟩ <;> exact listed all.2 found
      · cases place

end

/-! Gathering without a request. -/

section
variable (retrieve : String → Except String Json)

/-- A document whose survey asks for no other one is gathered in one round. -/
theorem gather_once {p : Pending} (nothing : ∀ s, surveyAll p = .ok s → s.references = []) (n : Nat)
    (r : Resources) : Resources.gather retrieve (n + 1) [p] r = (surveyAll p).map r.add := by
  simp only [Resources.gather,List.mapM_cons,List.mapM_nil]
  cases surveyed : surveyAll p with
  | error e => rfl
  | ok s =>
    have whole : [s].foldl (· ++ ·) ({} : Survey) = s := rfl
    dsimp only [Bind.bind,Except.bind,pure,Except.pure]
    rw [whole,nothing s surveyed]
    cases n <;> rfl

theorem gatherFor_once {schema : Json}
    (home : baseWithin defaultBase ((schema.members?).getD []) = .ok defaultBase)
    (nothing : ∀ s, surveyAll ⟨defaultBase,schema⟩ = .ok s → s.references = []) :
    gatherFor retrieve schema = (surveyAll ⟨defaultBase,schema⟩).map (Resources.add
      { draftResources with documents := (defaultBase.text,schema) :: draftResources.documents }) := by
  have rounds : memoryLimit = memoryLimit - 1 + 1 := rfl
  rw [gatherFor,home,rounds]
  exact gather_once retrieve nothing _ _

end

end Schema
end ApiReview
