import ApiReview.Schema.Basic
import ApiReview.Schema.Resource

/-!
Reading schemas from JSON. A schema is read keyword by keyword in the order of its members.
What a reference leads to is read once, into a table, when the reference is first met.
-/
namespace ApiReview.Schema

/-- The identifiers that have been met, and what they lead to, at the same places. The place of
one that is still being read holds a schema that allows everything. -/
structure Table where
  keys : Array Uri := #[]
  schemas : Array Schema := #[]

abbrev Reading := StateT Table (Except Error)

namespace Reading

def refuse {α : Type} (e : Error) : Reading α := throw e

def refuseKind {α : Type} (kinds : List Kind) (v : Json) : Reading α := throw (.ofKind kinds v)

end Reading

open Reading

/-! Values of keywords that hold no schemas. -/

def stringOf : Json → Reading String
  | .string s => return s
  | v => refuseKind [.string] v

def stringsOf : Json → Reading (List String)
  | .array vs => vs.mapM stringOf
  | v => refuseKind [.array] v

def numberOf : Json → Reading Number
  | .number n => return n
  | v => refuseKind [.number] v

/-- A count: a whole number that is not negative and is written as one. -/
def countOf : Json → Reading Nat
  | .number (.integer i fits) =>
    if 0 ≤ i then return i.toNat
    else refuse (.malformed (.unmet (.limit .lower false (.integer 0 (by decide)))
      (.number (.integer i fits))))
  | v => refuseKind [.integer] v

def kindOf (v : Json) : Reading Kind := do
  match Kind.ofName? (← stringOf v) with
  | some k => return k
  | none => refuse (.malformed (.unmet (.oneOf (Kind.all.map fun k => .string k.name)) v))

/-- One kind, or several in the order of all kinds. -/
def kindsOf : Json → Reading (List Kind)
  | .string s => return [← kindOf (.string s)]
  | .array vs => do
    let kinds ← vs.mapM kindOf
    return Kind.all.filter kinds.contains
  | v => refuseKind [.array, .string] v

/-- A pattern; of one that cannot be read, `v` is what is said to be none. -/
def patternOf (text : String) (v : Json) : Reading Pattern :=
  match Regex.read? text with
  | some regex => return ⟨text, regex⟩
  | none => refuse (.malformed (.unmet (.format .regex) v))

def isTrue (name : String) (ms : List (String × Json)) : Bool :=
  match Json.lookup name ms with
  | some (.bool true) => true
  | _ => false

def isFalse (name : String) (ms : List (String × Json)) : Bool :=
  match Json.lookup name ms with
  | some (.bool false) => true
  | _ => false

/-- Whether the members that have no schema of their own are free. If they are not, the
keyword on them takes over those on the others. -/
def othersFree (ms : List (String × Json)) : Bool :=
  match Json.lookup "additionalProperties" ms with
  | some (.bool false) | some (.object _) => false
  | _ => true

/-- A member of a schema, with the ways to read the schemas in it. The keyword says which of
them is used, and when. -/
structure Part where
  name : String
  value : Json
  schema : Reading Schema
  schemas : Reading (List Schema)
  fields : Reading (List (String × Schema))
  dependencies : Reading (List (String × Schema))

def Part.find? (name : String) (parts : List Part) : Option Part := parts.find? (·.name = name)

/-- The schemas of members whose names match patterns. -/
def matchingFields (part : Part) : Reading (List (Pattern × Schema)) := do
  let patterns ← ((part.value.members?).getD []).mapM fun (text, v) => patternOf text v
  return patterns.zip ((← part.fields).map (·.2))

/-- The keyword on the members of an object, if the members without a schema of their own are
not free. -/
def memberKeyword (ms : List (String × Json)) (parts : List Part) (part : Part) :
    Reading (Option Keyword) := do
  if othersFree ms then return none
  let matching ← ((Part.find? "patternProperties" parts).map matchingFields).getD (pure [])
  let named ← ((Part.find? "properties" parts).map (·.fields)).getD (pure [])
  match part.value with
  | .bool false =>
    if (Part.find? "patternProperties" parts).isNone && (Part.find? "properties" parts).isNone then
      return some .noMembers
    return some (.onlyMembers named matching)
  | _ => return some (.members named matching (← part.schema))

/-- The keyword on the items behind those that have a schema each. -/
def restKeyword (ms : List (String × Json)) (part : Part) : Reading (Option Keyword) := do
  match Json.lookup "items" ms, part.value with
  | some (.array first), .bool false => return some (.noRestItems first.length)
  | some (.array first), .object _ => return some (.restItems first.length (← part.schema))
  | _, _ => return none

/-- What a member of a schema means beside the others; unknown members mean nothing. -/
def keyword (formats : Bool) (ms : List (String × Json)) (parts : List Part) (part : Part) :
    Reading (Option Keyword) := do
  let v := part.value
  let constraint (c : Constraint) : Reading (Option Keyword) := return some (.constraint c)
  let size (measure : Measure) (side : Side) : Reading (Option Keyword) :=
    return some (.constraint (.size measure side (← countOf v)))
  match part.name with
  | "type" => constraint (.kind (← kindsOf v))
  | "enum" => match v with
    | .array vs => constraint (.oneOf vs)
    | _ => refuseKind [.array] v
  | "minimum" => constraint (.limit .lower (isTrue "exclusiveMinimum" ms) (← numberOf v))
  | "maximum" => constraint (.limit .upper (isTrue "exclusiveMaximum" ms) (← numberOf v))
  | "multipleOf" => constraint (.multiple (← numberOf v).toBinary64)
  | "minLength" => size .characters .lower
  | "maxLength" => size .characters .upper
  | "minItems" => size .items .lower
  | "maxItems" => size .items .upper
  | "minProperties" => size .members .lower
  | "maxProperties" => size .members .upper
  | "pattern" =>
    let text ← stringOf v
    constraint (.pattern (← patternOf text v))
  | "format" => match v.string?.bind Format.ofName? with
    | some f => if formats then constraint (.format f) else return none
    | none => return none
  | "uniqueItems" => if v == .bool true then constraint .different else return none
  | "required" => return some (.required (← stringsOf v))
  | "dependencies" => return some (.dependencies (← part.dependencies))
  | "properties" =>
    if othersFree ms then return some (.properties (← part.fields)) else return none
  | "patternProperties" =>
    if othersFree ms then return some (.patternProperties (← matchingFields part)) else return none
  | "additionalProperties" => memberKeyword ms parts part
  | "items" => match v with
    | .array _ => return some (.firstItems (← part.schemas))
    | _ => return some (.items (← part.schema))
  | "additionalItems" => restKeyword ms part
  | "allOf" => return some (.allOf (← part.schemas))
  | "anyOf" => return some (.anyOf (← part.schemas))
  | "oneOf" => return some (.oneOf (← part.schemas))
  | "not" => return some (.not v (← part.schema))
  | _ => return none

/-- Where and how schemas are read: the way references are followed, and whether formats count. -/
structure Setting where
  follow : Uri → String → Reading Nat
  formats : Bool

mutual

/-- Reads a schema at a base. A reference makes all other members of its object void. -/
def ofJson (setting : Setting) (base : Uri) : Json → Reading Schema
  | .bool true => return .everything
  | .bool false => return .nothing
  | .object ms => do
    match Json.lookup "$ref" ms with
    | some v => return .reference (← setting.follow base (← stringOf v))
    | none =>
      let parts := partsOf setting (← (baseWithin base ms : Except Error Uri)) ms
      return .keywords ((← parts.mapM (keyword setting.formats ms parts)).filterMap id)
  | v => refuseKind [.boolean, .object] v

def partsOf (setting : Setting) (base : Uri) : List (String × Json) → List Part
  | [] => []
  | (name, v) :: rest =>
    { name, value := v, schema := ofJson setting base v, schemas := schemasOf setting base v
      fields := fieldsOf setting base v, dependencies := dependenciesOf setting base v } ::
      partsOf setting base rest

def schemasOf (setting : Setting) (base : Uri) : Json → Reading (List Schema)
  | .array vs => itemsOf setting base vs
  | v => refuseKind [.array] v

def itemsOf (setting : Setting) (base : Uri) : List Json → Reading (List Schema)
  | [] => return []
  | v :: rest => return (← ofJson setting base v) :: (← itemsOf setting base rest)

def fieldsOf (setting : Setting) (base : Uri) : Json → Reading (List (String × Schema))
  | .object ms => valuesOf setting base ms
  | v => refuseKind [.object] v

def valuesOf (setting : Setting) (base : Uri) :
    List (String × Json) → Reading (List (String × Schema))
  | [] => return []
  | (name, v) :: rest =>
    return (name, ← ofJson setting base v) :: (← valuesOf setting base rest)

/-- A dependency is a schema, or a list of members that are required then. -/
def dependenciesOf (setting : Setting) (base : Uri) : Json → Reading (List (String × Schema))
  | .object ms => dependentsOf setting base ms
  | v => refuseKind [.object] v

def dependentsOf (setting : Setting) (base : Uri) :
    List (String × Json) → Reading (List (String × Schema))
  | [] => return []
  | (name, v) :: rest => do
    let s ← match v with
      | .array vs => pure (.keywords [.required (← stringsOf (.array vs))])
      | v => ofJson setting base v
    return (name, s) :: (← dependentsOf setting base rest)

end

/-- Notes an identifier that is met for the first time. -/
def Table.open (t : Table) (key : Uri) : Table :=
  ⟨t.keys.push key, t.schemas.push .everything⟩

/-- Follows a reference to a place of the table. What it leads to is read at the first time, and
references inside that are followed one level less deep. -/
def followWithin (resources : Resources) (formats : Bool) : Nat → Uri → String → Reading Nat
  | 0, _, text => refuse (.endless text)
  | n + 1, base, text => do
    let uri ← (resolve base text : Except Error Uri)
    match (← get).keys.idxOf? uri with
    | some i => return i
    | none =>
      let target ← (resources.target uri : Except Error Target)
      let i := (← get).keys.size
      modify (·.open uri)
      let s ← ofJson ⟨followWithin resources formats n, formats⟩ target.base target.schema
      modify fun t => { t with schemas := t.schemas.setIfInBounds i s }
      return i

end ApiReview.Schema
