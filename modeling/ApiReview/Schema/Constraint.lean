import ApiReview.Json.Printer
import ApiReview.Regex.Matching
import ApiReview.Regex.Reader
import ApiReview.Uri

/-!
Constraints that a schema puts on one value without looking at other schemas.
-/
namespace ApiReview
namespace Json

mutual

/-- Equal as values: numbers by what they denote, objects member by member in order. -/
def same : Json → Json → Bool
  | .null, .null => true
  | .bool a, .bool b => a == b
  | .number a, .number b => a.same b
  | .string a, .string b => a == b
  | .array a, .array b => sameItems a b
  | .object a, .object b => sameMembers a b
  | _, _ => false

def sameItems : List Json → List Json → Bool
  | [], [] => true
  | a :: as, b :: bs => same a b && sameItems as bs
  | _, _ => false

def sameMembers : List (String × Json) → List (String × Json) → Bool
  | [], [] => true
  | (k, a) :: as, (l, b) :: bs => k == l && same a b && sameMembers as bs
  | _, _ => false

end

/-- Whether no two items are equal as values. -/
def allDifferent : List Json → Bool
  | [] => true
  | v :: rest => !rest.any (same v) && allDifferent rest

end Json

namespace Schema

/-- The kinds of values that a schema can tell apart, in the order in which they are listed. -/
inductive Kind where
  | array
  | boolean
  | integer
  | null
  | number
  | object
  | string
  deriving DecidableEq

namespace Kind

def all : List Kind := [array, boolean, integer, null, number, object, string]

def name : Kind → String
  | array => "array"
  | boolean => "boolean"
  | integer => "integer"
  | null => "null"
  | number => "number"
  | object => "object"
  | string => "string"

def ofName? (name : String) : Option Kind := all.find? (·.name = name)

/-- A whole number is an integer only if it was written as one. -/
def has : Kind → Json → Bool
  | array, .array _ => true
  | boolean, .bool _ => true
  | integer, .number (.integer ..) => true
  | null, .null => true
  | number, .number _ => true
  | object, .object _ => true
  | string, .string _ => true
  | _, _ => false

end Kind

/-- The two sides on which a range ends. -/
inductive Side where
  | lower
  | upper
  deriving DecidableEq

/-- What is counted in a text, an array or an object. -/
inductive Measure where
  | characters
  | items
  | members
  deriving DecidableEq

def Measure.of? : Measure → Json → Option Nat
  | characters, .string s => some s.length
  | items, .array list => some list.length
  | members, .object list => some list.length
  | _, _ => none

/-- A pattern with its text. -/
structure Pattern where
  text : String
  regex : Regex

def Pattern.matches (p : Pattern) (s : String) : Bool := p.regex.isMatch s

/-- What a text can be required to be. -/
inductive Format where
  | regex
  | uri
  deriving DecidableEq

namespace Format

def name : Format → String
  | regex => "regex"
  | uri => "uri"

def ofName? (name : String) : Option Format := [regex, uri].find? (·.name = name)

/-- Whether a text can be read as a pattern, or as an identifier that is complete. -/
def admits : Format → String → Bool
  | regex, s => (Regex.read? s).isSome
  | uri, s => match Uri.parse s with
    | .ok u => u.scheme.isSome
    | .error _ => false

end Format

inductive Constraint where
  /-- One of the kinds. -/
  | kind (kinds : List Kind)
  | oneOf (values : List Json)
  /-- A number up to a limit, or with a strict limit below it. -/
  | limit (side : Side) (strict : Bool) (value : Number)
  | multiple (divisor : Binary64)
  | size (measure : Measure) (side : Side) (limit : Nat)
  | pattern (p : Pattern)
  | format (f : Format)
  | different

/-- Whether a number keeps a limit, compared exactly. -/
def withinLimit (side : Side) (strict : Bool) (limit n : Number) : Bool :=
  match side, strict with
  | .lower, false => limit.units ≤ n.units
  | .lower, true => limit.units < n.units
  | .upper, false => n.units ≤ limit.units
  | .upper, true => n.units < limit.units

/-- Whether the fraction behind the point is too small to count, at `2 ^ -52`. What is below zero
has a negative fraction, which always is. -/
def hasSmallFraction (x : Binary64) : Bool :=
  x.negative || x.units % twoTo 1074 < twoTo 1022

/-- Whether a number is a multiple, in doubles. By a whole number it divides without remainder;
by another one the quotient is rounded before its fraction is taken, and a quotient that is
too large is not rounded. Nothing is a multiple of zero. -/
def isMultiple (divisor n : Binary64) : Bool :=
  if divisor.isZero then false
  else if divisor.isWhole then n.isWhole && n.units % divisor.units == 0
  else match n.div? divisor with
    | some q => hasSmallFraction q
    | none => n.units % divisor.units == 0

def Constraint.accepts : Constraint → Json → Bool
  | .kind kinds, v => kinds.any (·.has v)
  | .oneOf values, v => values.any (Json.same v)
  | .limit side strict value, .number n => withinLimit side strict value n
  | .multiple divisor, .number n => isMultiple divisor n.toBinary64
  | .size measure side bound, v => match measure.of? v, side with
    | none, _ => true
    | some n, .lower => bound ≤ n
    | some n, .upper => n ≤ bound
  | .pattern p, .string s => p.matches s
  | .format f, .string s => f.admits s
  | .different, .array list => Json.allDifferent list
  | _, _ => true

end Schema
end ApiReview
