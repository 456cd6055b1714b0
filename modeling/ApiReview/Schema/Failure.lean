import ApiReview.Schema.Constraint
import ApiReview.Decimal.Shortest

/-!
The ways in which a value fails a schema, and how they are said.
-/
namespace ApiReview.Schema

inductive Failure where
  | unmet (c : Constraint) (v : Json)
  /-- The schema that allows nothing. -/
  | refused (v : Json)
  | missing (name : String)
  | unexpectedMembers (names : List String)
  | unexpectedItems (items : List Json)
  /-- None of several schemas holds; `exactlyOne` says which of the two keywords asks. -/
  | noneOf (exactlyOne : Bool) (v : Json)
  | severalOf (v : Json)
  /-- A schema holds that must not. -/
  | forbidden (schema v : Json)

/-- A number of things, with their name in the singular or the plural. -/
def counted (n : Nat) (singular plural : String) : String :=
  Decimal.text n ++ " " ++ if n = 1 then singular else plural

def sizeText (measure : Measure) (side : Side) (n : Nat) : String :=
  match measure, side with
  | .characters, .lower => "is shorter than " ++ counted n "character" "characters"
  | .characters, .upper => "is longer than " ++ counted n "character" "characters"
  | .items, .lower => "has less than " ++ counted n "item" "items"
  | .items, .upper => "has more than " ++ counted n "item" "items"
  | .members, .lower => "has less than " ++ counted n "property" "properties"
  | .members, .upper => "has more than " ++ counted n "property" "properties"

def limitText (side : Side) (strict : Bool) (limit : Number) : String :=
  (match side with
    | .lower => "is less than "
    | .upper => "is greater than ") ++
  (if strict then "or equal to " else "") ++
  (match side with
    | .lower => "the minimum of "
    | .upper => "the maximum of ") ++ (Json.number limit).compact

def quotedText (s : String) : String := (Json.string s).compact

def kindsText (kinds : List Kind) : String :=
  match kinds with
  | [k] => "is not of type " ++ quotedText k.name
  | ks => "is not of types " ++ ", ".intercalate (ks.map fun k => quotedText k.name)

def unmetText : Constraint → String
  | .kind kinds => kindsText kinds
  | .oneOf values => "is not one of " ++ (Json.array values).compact
  | .limit side strict value => limitText side strict value
  | .multiple divisor => "is not a multiple of " ++ Decimal.Layout.plain.text divisor
  | .size measure side bound => sizeText measure side bound
  | .pattern p => "does not match \"" ++ p.text ++ "\""
  | .format f => "is not a " ++ quotedText f.name
  | .different => "has non-unique elements"

/-- Things that should not be there, with the verb in the singular or the plural. -/
def unexpected (things : List String) : String :=
  "(" ++ ", ".intercalate things ++ (if things.length = 1 then " was" else " were") ++ " unexpected)"

def Failure.message : Failure → String
  | unmet c v => v.compact ++ " " ++ unmetText c
  | refused v => "False schema does not allow " ++ v.compact
  | missing name => quotedText name ++ " is a required property"
  | unexpectedMembers names =>
    "Additional properties are not allowed " ++ unexpected (names.map fun n => "'" ++ n ++ "'")
  | unexpectedItems items =>
    "Additional items are not allowed " ++ unexpected (items.map Json.compact)
  | noneOf exactlyOne v =>
    v.compact ++ " is not valid under any of the schemas listed in the '" ++
      (if exactlyOne then "oneOf" else "anyOf") ++ "' keyword"
  | severalOf v =>
    v.compact ++ " is valid under more than one of the schemas listed in the 'oneOf' keyword"
  | forbidden schema v => schema.compact ++ " is not allowed for " ++ v.compact

end ApiReview.Schema
