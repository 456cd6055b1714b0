import ApiReview.Schema.Basic

/-!
Whether a value satisfies a schema. What a reference means is a parameter, so that the
definitions follow the schema alone; `Schema.Validator` gives it its meaning.
-/
namespace ApiReview.Schema

/-- Both where there are two, one where there is one. -/
def both? : Option Bool → Option Bool → Option Bool
  | none, b => b
  | a, none => a
  | some a, some b => some (a && b)

mutual

def accepts (follow : Nat → Json → Bool) : Schema → Json → Bool
  | .everything, _ => true
  | .nothing, _ => false
  | .reference target, v => follow target v
  | .keywords list, v => keywordsAccept follow list v

def keywordsAccept (follow : Nat → Json → Bool) : List Keyword → Json → Bool
  | [], _ => true
  | k :: rest, v => keywordAccepts follow k v && keywordsAccept follow rest v

def keywordAccepts (follow : Nat → Json → Bool) : Keyword → Json → Bool
  | .constraint c, v => c.accepts v
  | .required names, .object ms => names.all fun name => (Json.lookup name ms).isSome
  | .dependencies list, .object ms => dependenciesAccept follow list ms
  | .properties list, .object ms => namedAccept follow list ms
  | .patternProperties list, .object ms => matchingAccept follow list ms
  | .members named matching rest, .object ms => ms.all fun (name, v) =>
    (both? (nameAccepts? follow named name v) (patternsAccept? follow matching name v)).getD
      (accepts follow rest v)
  | .onlyMembers named matching, .object ms => ms.all fun (name, v) =>
    (both? (nameAccepts? follow named name v) (patternsAccept? follow matching name v)).getD false
  | .noMembers, .object ms => ms.isEmpty
  | .items s, .array vs => vs.all (accepts follow s)
  | .firstItems list, .array vs => firstAccept follow list vs
  | .restItems first s, .array vs => (vs.drop first).all (accepts follow s)
  | .noRestItems first, .array vs => vs.length ≤ first
  | .allOf list, v => allAccept follow list v
  | .anyOf list, v => anyAccepts follow list v
  | .oneOf list, v => acceptCount follow list v == 1
  | .not _ s, v => !accepts follow s v
  | _, _ => true

def allAccept (follow : Nat → Json → Bool) : List Schema → Json → Bool
  | [], _ => true
  | s :: rest, v => accepts follow s v && allAccept follow rest v

def anyAccepts (follow : Nat → Json → Bool) : List Schema → Json → Bool
  | [], _ => false
  | s :: rest, v => accepts follow s v || anyAccepts follow rest v

/-- How many of the schemas hold. -/
def acceptCount (follow : Nat → Json → Bool) : List Schema → Json → Nat
  | [], _ => 0
  | s :: rest, v => (if accepts follow s v then 1 else 0) + acceptCount follow rest v

def firstAccept (follow : Nat → Json → Bool) : List Schema → List Json → Bool
  | s :: rest, v :: vs => accepts follow s v && firstAccept follow rest vs
  | _, _ => true

def dependenciesAccept (follow : Nat → Json → Bool) :
    List (String × Schema) → List (String × Json) → Bool
  | [], _ => true
  | (name, s) :: rest, ms =>
    ((Json.lookup name ms).isNone || accepts follow s (.object ms)) &&
      dependenciesAccept follow rest ms

def namedAccept (follow : Nat → Json → Bool) :
    List (String × Schema) → List (String × Json) → Bool
  | [], _ => true
  | (name, s) :: rest, ms =>
    (Json.lookup name ms).all (accepts follow s) && namedAccept follow rest ms

def matchingAccept (follow : Nat → Json → Bool) :
    List (Pattern × Schema) → List (String × Json) → Bool
  | [], _ => true
  | (p, s) :: rest, ms =>
    (ms.all fun (name, v) => !p.matches name || accepts follow s v) &&
      matchingAccept follow rest ms

/-- What the schema of a member's own name says, if there is one. -/
def nameAccepts? (follow : Nat → Json → Bool) :
    List (String × Schema) → String → Json → Option Bool
  | [], _, _ => none
  | (k, s) :: rest, name, v =>
    if k = name then some (accepts follow s v) else nameAccepts? follow rest name v

/-- What the schemas of all patterns that match a member's name say, if there is one. -/
def patternsAccept? (follow : Nat → Json → Bool) :
    List (Pattern × Schema) → String → Json → Option Bool
  | [], _, _ => none
  | (p, s) :: rest, name, v =>
    let others := patternsAccept? follow rest name v
    if p.matches name then both? (some (accepts follow s v)) others else others

end

end ApiReview.Schema
