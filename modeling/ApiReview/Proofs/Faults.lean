import ApiReview.Schema.Validator
import ApiReview.Proofs.Pointer

/-! Places of faults. Whatever the schema, the place of a fault leads to the node that fails,
through names that are members of objects and positions that are in arrays. -/
namespace ApiReview.Schema

/-- What a failure says of the node at its place. -/
def Failure.Concerns : Failure → Json → Prop
  | .unmet c v, node => node = v ∧ c.accepts v = false
  /- The refusal of all members is told of the first one, at the place of the object. -/
  | .refused v, node => node = v ∨ ∃ name rest, node = .object ((name,v) :: rest)
  | .missing name, node => ∃ ms, node = .object ms ∧ Json.lookup name ms = none
  | .unexpectedMembers names, node =>
    names ≠ [] ∧ ∃ ms, node = .object ms ∧ ∀ name ∈ names, ∃ v, Json.lookup name ms = some v
  | .unexpectedItems items, node => items ≠ [] ∧ ∃ all, node = .array all ∧ items <:+ all
  | .noneOf _ v, node | .severalOf v, node | .forbidden _ v, node => node = v

/-- The place of a fault leads to the node that fails. -/
def Fault.Real (root : Json) (f : Fault) : Prop :=
  ∃ node, f.place.resolve? root = some node ∧ f.failure.Concerns node

def AllReal (root : Json) (fs : List Fault) : Prop := ∀ f ∈ fs, f.Real root

section
variable {root : Json}

@[simp] theorem allReal_nil : AllReal root [] := by simp [AllReal]

@[simp] theorem allReal_append {a b : List Fault} :
    AllReal root (a ++ b) ↔ AllReal root a ∧ AllReal root b := List.forall_mem_append

theorem allReal_singleton {place : Pointer} {failure : Failure} {node : Json}
    (found : place.resolve? root = some node) (concerns : failure.Concerns node) :
    AllReal root [⟨place,failure⟩] := by
  intro f member
  rw [List.mem_singleton.mp member]
  exact ⟨node,found,concerns⟩

theorem demand_real {holds : Bool} {place : Pointer} {failure : Failure} {node : Json}
    (found : place.resolve? root = some node) (concerns : holds = false → failure.Concerns node) :
    AllReal root (demand holds place failure) := by
  cases holds with
  | true => simp [demand]
  | false => exact allReal_singleton found (concerns rfl)

theorem append?_real {a b : Option (List Fault)} (left : ∀ fs, a = some fs → AllReal root fs)
    (right : ∀ fs, b = some fs → AllReal root fs) (fs : List Fault)
    (both : append? a b = some fs) : AllReal root fs := by
  cases a with
  | none => exact right fs (by simpa [append?] using both)
  | some x =>
    cases b with
    | none => exact left fs (by simpa [append?] using both)
    | some y =>
      obtain rfl : x ++ y = fs := by simpa [append?] using both
      exact allReal_append.mpr ⟨left x rfl,right y rfl⟩

/-- Whether the member that a name leads to has schemas of its own or has that of the others. -/
theorem append?_getD_real {a b : Option (List Fault)} (left : ∀ fs, a = some fs → AllReal root fs)
    (right : ∀ fs, b = some fs → AllReal root fs) {others : List Fault}
    (real : AllReal root others) : AllReal root ((append? a b).getD others) := by
  cases both : append? a b with
  | none => exact real
  | some fs => exact append?_real left right fs both

theorem next_item {all vs : List Json} {v : Json} {i : Nat} (tail : all.drop i = v :: vs) :
    all[i]? = some v ∧ all.drop (i + 1) = vs :=
  ⟨by rw [← List.head?_drop,tail,List.head?_cons],by rw [← List.tail_drop,tail,List.tail_cons]⟩

theorem itemFaults_real {check : Pointer → Json → List Fault} {here : Pointer} {all : List Json}
    (found : here.resolve? root = some (.array all))
    (real : ∀ place v, place.resolve? root = some v → AllReal root (check place v))
    (i : Nat) (vs : List Json) (tail : all.drop i = vs) :
    AllReal root (itemFaults check here i vs) := by
  induction vs generalizing i with
  | nil => simp [itemFaults]
  | cons v vs ih =>
    obtain ⟨item,behind⟩ := next_item tail
    exact allReal_append.mpr ⟨real _ _ (Pointer.resolve?_index found item),ih _ behind⟩

theorem memberFaults_real {check : String → Json → List Fault} {ms : List (String × Json)}
    (real : ∀ name v, (name,v) ∈ ms → AllReal root (check name v)) :
    AllReal root (memberFaults check ms) := by
  intro f member
  obtain ⟨⟨name,v⟩,inside,member⟩ := List.mem_flatMap.mp member
  exact real name v inside f member

/-- In a tree without repeated names, each member is what its name leads to. -/
theorem member_found (distinct : root.Distinct) {here : Pointer} {ms : List (String × Json)}
    (found : here.resolve? root = some (.object ms)) {name : String} {v : Json}
    (member : (name,v) ∈ ms) : (here.key name).resolve? root = some v := by
  have apart := distinct.walk (Pointer.walk_iff.mp found)
  exact Pointer.resolve?_key found (Json.lookup_of_mem apart.1 member)

end

/-- References are followed to real faults of a tree without repeated names. -/
structure Trusted (root : Json) (follow : Following) : Prop where
  distinct : root.Distinct
  sound : ∀ target here v, here.resolve? root = some v →
    AllReal root (follow.faults target here v)

section
variable {root : Json} {follow : Following}

mutual

theorem faults_real (trusted : Trusted root follow) : ∀ (s : Schema) (here : Pointer) (v : Json),
    here.resolve? root = some v → AllReal root (faults follow s here v)
  | .everything, _, _, _ => by simp [faults]
  | .nothing, here, v, found => allReal_singleton found (.inl rfl)
  | .reference target, here, v, found => trusted.sound target here v found
  | .keywords list, here, v, found => keywordsFaults_real trusted list here v found

theorem keywordsFaults_real (trusted : Trusted root follow) :
    ∀ (list : List Keyword) (here : Pointer) (v : Json),
    here.resolve? root = some v → AllReal root (keywordsFaults follow list here v)
  | [], _, _, _ => by simp [keywordsFaults]
  | k :: rest, here, v, found => by
    rw [keywordsFaults,allReal_append]
    exact ⟨keywordFaults_real trusted k here v found,keywordsFaults_real trusted rest here v found⟩

/-- A keyword on members or items has no faults at a node of another kind. -/
theorem keywordFaults_real (trusted : Trusted root follow) :
    ∀ (k : Keyword) (here : Pointer) (v : Json),
    here.resolve? root = some v → AllReal root (keywordFaults follow k here v)
  | .constraint c, here, v, found => by
    rw [keywordFaults]
    exact demand_real found fun unmet => ⟨rfl,unmet⟩
  | .required names, here, v, found => by
    cases v with
    | object ms =>
      intro f member
      simp only [keywordFaults,List.mem_map,List.mem_filter] at member
      obtain ⟨name,⟨_,absent⟩,rfl⟩ := member
      exact ⟨_,found,ms,rfl,Option.isNone_iff_eq_none.mp absent⟩
    | _ => simp [keywordFaults]
  | .dependencies list, here, v, found => by
    cases v with
    | object ms => simpa only [keywordFaults] using dependenciesFaults_real trusted list here ms found
    | _ => simp [keywordFaults]
  | .properties list, here, v, found => by
    cases v with
    | object ms => simpa only [keywordFaults] using namedFaults_real trusted list here ms found
    | _ => simp [keywordFaults]
  | .patternProperties list, here, v, found => by
    cases v with
    | object ms => simpa only [keywordFaults] using matchingFaults_real trusted list here ms found
    | _ => simp [keywordFaults]
  | .members named matching rest, here, v, found => by
    cases v with
    | object ms =>
      rw [keywordFaults]
      refine memberFaults_real fun name v member => ?_
      have inside := member_found trusted.distinct found member
      exact append?_getD_real (nameFaults?_real trusted named name _ v inside)
        (patternsFaults?_real trusted matching name _ v inside) (faults_real trusted rest _ v inside)
    | _ => simp [keywordFaults]
  | .onlyMembers named matching, here, v, found => by
    cases v with
    | object ms =>
      rw [keywordFaults,allReal_append]
      constructor
      · refine memberFaults_real fun name v member => ?_
        have inside := member_found trusted.distinct found member
        exact append?_getD_real (nameFaults?_real trusted named name _ v inside)
          (patternsFaults?_real trusted matching name _ v inside) allReal_nil
      · refine demand_real found fun more => ⟨by simpa using more,ms,rfl,fun name other => ?_⟩
        obtain ⟨⟨_,v⟩,member,rfl⟩ := List.mem_map.mp other
        have apart := trusted.distinct.walk (Pointer.walk_iff.mp found)
        exact ⟨v,Json.lookup_of_mem apart.1 (List.mem_filter.mp member).1⟩
    | _ => simp [keywordFaults]
  | .noMembers, here, v, found => by
    cases v with
    | object ms =>
      cases ms with
      | nil => simp [keywordFaults]
      | cons m rest =>
        obtain ⟨name,v⟩ := m
        exact allReal_singleton found (.inr ⟨name,rest,rfl⟩)
    | _ => simp [keywordFaults]
  | .items s, here, v, found => by
    cases v with
    | array vs =>
      rw [keywordFaults]
      exact itemFaults_real found (faults_real trusted s) 0 vs rfl
    | _ => simp [keywordFaults]
  | .firstItems list, here, v, found => by
    cases v with
    | array vs => simpa only [keywordFaults] using firstFaults_real trusted list here vs 0 vs found rfl
    | _ => simp [keywordFaults]
  | .restItems first s, here, v, found => by
    cases v with
    | array vs =>
      rw [keywordFaults]
      exact itemFaults_real found (faults_real trusted s) first _ rfl
    | _ => simp [keywordFaults]
  | .noRestItems first, here, v, found => by
    cases v with
    | array vs =>
      rw [keywordFaults]
      refine demand_real found fun more => ⟨?_,vs,rfl,List.drop_suffix first vs⟩
      simpa using more
    | _ => simp [keywordFaults]
  | .allOf list, here, v, found => by
    rw [keywordFaults]
    exact allFaults_real trusted list here v found
  | .anyOf list, here, v, found => by
    rw [keywordFaults]
    exact demand_real found fun _ => rfl
  | .oneOf list, here, v, found => by
    rw [keywordFaults]
    split
    · exact allReal_singleton found rfl
    · exact allReal_nil
    · exact allReal_singleton found rfl
  | .not source s, here, v, found => by
    rw [keywordFaults]
    exact demand_real found fun _ => rfl

theorem allFaults_real (trusted : Trusted root follow) :
    ∀ (list : List Schema) (here : Pointer) (v : Json),
    here.resolve? root = some v → AllReal root (allFaults follow list here v)
  | [], _, _, _ => by simp [allFaults]
  | s :: rest, here, v, found => by
    rw [allFaults,allReal_append]
    exact ⟨faults_real trusted s here v found,allFaults_real trusted rest here v found⟩

theorem firstFaults_real (trusted : Trusted root follow) :
    ∀ (list : List Schema) (here : Pointer) (all : List Json) (i : Nat)
    (vs : List Json), here.resolve? root = some (.array all) → all.drop i = vs →
    AllReal root (firstFaults follow list here i vs)
  | [], _, _, _, _, _, _ => by simp [firstFaults]
  | _ :: _, _, _, _, [], _, _ => by simp [firstFaults]
  | s :: rest, here, all, i, v :: vs, found, tail => by
    obtain ⟨item,behind⟩ := next_item tail
    rw [firstFaults,allReal_append]
    exact ⟨faults_real trusted s _ v (Pointer.resolve?_index found item),
      firstFaults_real trusted rest here all (i + 1) vs found behind⟩

theorem dependenciesFaults_real (trusted : Trusted root follow) :
    ∀ (list : List (String × Schema)) (here : Pointer)
    (ms : List (String × Json)), here.resolve? root = some (.object ms) →
    AllReal root (dependenciesFaults follow list here ms)
  | [], _, _, _ => by simp [dependenciesFaults]
  | (name,s) :: rest, here, ms, found => by
    rw [dependenciesFaults,allReal_append]
    refine ⟨?_,dependenciesFaults_real trusted rest here ms found⟩
    split
    · exact faults_real trusted s here _ found
    · exact allReal_nil

theorem namedFaults_real (trusted : Trusted root follow) :
    ∀ (list : List (String × Schema)) (here : Pointer)
    (ms : List (String × Json)), here.resolve? root = some (.object ms) →
    AllReal root (namedFaults follow list here ms)
  | [], _, _, _ => by simp [namedFaults]
  | (name,s) :: rest, here, ms, found => by
    rw [namedFaults,allReal_append]
    refine ⟨?_,namedFaults_real trusted rest here ms found⟩
    split
    · next v member => exact faults_real trusted s _ v (Pointer.resolve?_key found member)
    · exact allReal_nil

theorem matchingFaults_real (trusted : Trusted root follow) :
    ∀ (list : List (Pattern × Schema)) (here : Pointer)
    (ms : List (String × Json)), here.resolve? root = some (.object ms) →
    AllReal root (matchingFaults follow list here ms)
  | [], _, _, _ => by simp [matchingFaults]
  | (p,s) :: rest, here, ms, found => by
    rw [matchingFaults,allReal_append]
    refine ⟨memberFaults_real fun name v member => ?_,matchingFaults_real trusted rest here ms found⟩
    split
    · exact faults_real trusted s _ v (member_found trusted.distinct found member)
    · exact allReal_nil

theorem nameFaults?_real (trusted : Trusted root follow) :
    ∀ (list : List (String × Schema)) (name : String) (place : Pointer)
    (v : Json), place.resolve? root = some v → ∀ fs, nameFaults? follow list name place v = some fs →
    AllReal root fs
  | [], _, _, _, _, _, known => by simp [nameFaults?] at known
  | (k,s) :: rest, name, place, v, found, fs, known => by
    rw [nameFaults?] at known
    split at known
    · exact Option.some.inj known ▸ faults_real trusted s place v found
    · exact nameFaults?_real trusted rest name place v found fs known

theorem patternsFaults?_real (trusted : Trusted root follow) :
    ∀ (list : List (Pattern × Schema)) (name : String)
    (place : Pointer) (v : Json), place.resolve? root = some v →
    ∀ fs, patternsFaults? follow list name place v = some fs → AllReal root fs
  | [], _, _, _, _, _, known => by simp [patternsFaults?] at known
  | (p,s) :: rest, name, place, v, found, fs, known => by
    have others := patternsFaults?_real trusted rest name place v found
    rw [patternsFaults?] at known
    split at known
    · refine append?_real ?_ others fs known
      rintro _ ⟨⟩
      exact faults_real trusted s place v found
    · exact others fs known

end

end

namespace Validator

theorem faultsWithin_real {root : Json} (distinct : root.Distinct) (table : Array Schema)
    (n i : Nat) (here : Pointer) (v : Json) (found : here.resolve? root = some v) :
    AllReal root (faultsWithin table n i here v) := by
  induction n generalizing i here v with
  | zero => simp [faultsWithin]
  | succ n ih => exact faults_real ⟨distinct,ih⟩ _ here v found

/-- The evaluator tells of every failure where it is. -/
theorem validator_faults_real (validator : Validator) {document : Json}
    (distinct : document.Distinct) : AllReal document (validator.faults document) :=
  faults_real ⟨distinct,faultsWithin_real distinct _ _⟩ validator.root .root document rfl

/-- The text of a fault's place is never given up for the root. -/
theorem parseAgainst?_place (validator : Validator) {document : Json} {f : Fault}
    (distinct : document.Distinct) (fits : document.Addressable)
    (fault : f ∈ validator.faults document) :
    Pointer.parseAgainst? f.place.text document = some f.place := by
  obtain ⟨node,found,_⟩ := validator_faults_real validator distinct f fault
  exact Pointer.parseAgainst?_text (Pointer.words_of_found fits found) found

/-- Findings stand where the faults are, as far as the text of a place can be read back. -/
theorem findings_pointers (validator : Validator) (document : Json) :
    (validator.findings document).map (·.pointer) = (validator.faults document).map fun f =>
      (Pointer.parseAgainst? f.place.text document).getD .root := by
  simp [findings]

theorem mem_findings {validator : Validator} {document : Json} {finding : Finding}
    (distinct : document.Distinct) (fits : document.Addressable) :
    finding ∈ validator.findings document ↔
      ∃ f ∈ validator.faults document, finding = ⟨f.failure.message,f.place⟩ := by
  simp only [findings,List.mem_map]
  refine exists_congr fun f => and_congr_right fun fault => ?_
  rw [parseAgainst?_place validator distinct fits fault,Option.getD_some,eq_comm]

end Validator
end ApiReview.Schema
