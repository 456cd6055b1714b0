import ApiReview.Schema.Failure
import ApiReview.Schema.Verdict
import ApiReview.Pointer

/-!
All faults that a value has by a schema, in the order of the schema's keywords. What a
reference means is a parameter, as in `Schema.accepts`.
-/
namespace ApiReview.Schema

/-- A failure and the place of the value that fails. -/
structure Fault where
  place : Pointer
  failure : Failure

/-- How references are followed: to a verdict, and to the faults of a value at a place. -/
structure Following where
  accepts : Nat → Json → Bool
  faults : Nat → Pointer → Json → List Fault

/-- A fault of the value itself, unless a condition holds. -/
def demand (holds : Bool) (place : Pointer) (failure : Failure) : List Fault :=
  if holds then [] else [⟨place, failure⟩]

/-- The lists of both where there are two, one where there is one. -/
def append? : Option (List Fault) → Option (List Fault) → Option (List Fault)
  | none, b => b
  | a, none => a
  | some a, some b => some (a ++ b)

/-- The faults of an array's items, from a position on. -/
def itemFaults (check : Pointer → Json → List Fault) (place : Pointer) :
    Nat → List Json → List Fault
  | _, [] => []
  | i, v :: vs => check (place.index i) v ++ itemFaults check place (i + 1) vs

/-- The faults of an object's members. -/
def memberFaults (check : String → Json → List Fault) (ms : List (String × Json)) : List Fault :=
  ms.flatMap fun (name, v) => check name v

mutual

def faults (follow : Following) : Schema → Pointer → Json → List Fault
  | .everything, _, _ => []
  | .nothing, here, v => [⟨here, .refused v⟩]
  | .reference target, here, v => follow.faults target here v
  | .keywords list, here, v => keywordsFaults follow list here v

def keywordsFaults (follow : Following) : List Keyword → Pointer → Json → List Fault
  | [], _, _ => []
  | k :: rest, here, v => keywordFaults follow k here v ++ keywordsFaults follow rest here v

def keywordFaults (follow : Following) : Keyword → Pointer → Json → List Fault
  | .constraint c, here, v => demand (c.accepts v) here (.unmet c v)
  | .required names, here, .object ms =>
    (names.filter fun name => (Json.lookup name ms).isNone).map fun name => ⟨here, .missing name⟩
  | .dependencies list, here, .object ms => dependenciesFaults follow list here ms
  | .properties list, here, .object ms => namedFaults follow list here ms
  | .patternProperties list, here, .object ms => matchingFaults follow list here ms
  | .members named matching rest, here, .object ms =>
    memberFaults (fun name v =>
      let place := here.key name
      (append? (nameFaults? follow named name place v)
        (patternsFaults? follow matching name place v)).getD (faults follow rest place v)) ms
  | .onlyMembers named matching, here, .object ms =>
    let known (name : String) (v : Json) : Option (List Fault) :=
      append? (nameFaults? follow named name (here.key name) v)
        (patternsFaults? follow matching name (here.key name) v)
    let others := ms.filter fun (name, v) => (known name v).isNone
    memberFaults (fun name v => (known name v).getD []) ms ++
      demand others.isEmpty here (.unexpectedMembers (others.map Prod.fst))
  | .noMembers, here, .object ms => match ms with
    | [] => []
    | (_, v) :: _ => [⟨here, .refused v⟩]
  | .items s, here, .array vs => itemFaults (faults follow s) here 0 vs
  | .firstItems list, here, .array vs => firstFaults follow list here 0 vs
  | .restItems first s, here, .array vs => itemFaults (faults follow s) here first (vs.drop first)
  | .noRestItems first, here, .array vs =>
    demand (vs.length ≤ first) here (.unexpectedItems (vs.drop first))
  | .allOf list, here, v => allFaults follow list here v
  | .anyOf list, here, v => demand (anyAccepts follow.accepts list v) here (.noneOf false v)
  | .oneOf list, here, v => match acceptCount follow.accepts list v with
    | 0 => [⟨here, .noneOf true v⟩]
    | 1 => []
    | _ => [⟨here, .severalOf v⟩]
  | .not source s, here, v => demand (!accepts follow.accepts s v) here (.forbidden source v)
  | _, _, _ => []

def allFaults (follow : Following) : List Schema → Pointer → Json → List Fault
  | [], _, _ => []
  | s :: rest, here, v => faults follow s here v ++ allFaults follow rest here v

/-- The faults of items that have a schema each, the first one at a position. -/
def firstFaults (follow : Following) : List Schema → Pointer → Nat → List Json → List Fault
  | s :: rest, here, i, v :: vs =>
    faults follow s (here.index i) v ++ firstFaults follow rest here (i + 1) vs
  | _, _, _, _ => []

def dependenciesFaults (follow : Following) :
    List (String × Schema) → Pointer → List (String × Json) → List Fault
  | [], _, _ => []
  | (name, s) :: rest, here, ms =>
    (if (Json.lookup name ms).isSome then faults follow s here (.object ms) else []) ++
      dependenciesFaults follow rest here ms

def namedFaults (follow : Following) :
    List (String × Schema) → Pointer → List (String × Json) → List Fault
  | [], _, _ => []
  | (name, s) :: rest, here, ms =>
    (match Json.lookup name ms with
      | some v => faults follow s (here.key name) v
      | none => []) ++ namedFaults follow rest here ms

def matchingFaults (follow : Following) :
    List (Pattern × Schema) → Pointer → List (String × Json) → List Fault
  | [], _, _ => []
  | (p, s) :: rest, here, ms =>
    memberFaults (fun name v => if p.matches name then faults follow s (here.key name) v else []) ms ++
      matchingFaults follow rest here ms

/-- The faults by the schema of a member's own name, if there is one. -/
def nameFaults? (follow : Following) :
    List (String × Schema) → String → Pointer → Json → Option (List Fault)
  | [], _, _, _ => none
  | (k, s) :: rest, name, place, v =>
    if k = name then some (faults follow s place v) else nameFaults? follow rest name place v

/-- The faults by the schemas of all patterns that match a member's name, if there is one. -/
def patternsFaults? (follow : Following) :
    List (Pattern × Schema) → String → Pointer → Json → Option (List Fault)
  | [], _, _, _ => none
  | (p, s) :: rest, name, place, v =>
    let others := patternsFaults? follow rest name place v
    if p.matches name then append? (some (faults follow s place v)) others else others

end

end ApiReview.Schema
