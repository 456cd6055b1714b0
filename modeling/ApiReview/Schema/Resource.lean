import ApiReview.Schema.Error
import ApiReview.Pointer
import ApiReview.Text.Class

/-!
The documents that a schema consists of: the schema itself and those that it refers to.
A document, or a part of one, that declares an identifier is found under it; all others
under the identifier that they were asked for by.
-/
namespace ApiReview.Schema

/-- Documents by identifier, and named parts by the identifier of their document. -/
structure Resources where
  documents : List (String × Json) := []
  anchors : List ((String × String) × Json) := []

/-- What a document contributes and asks for. -/
structure Survey where
  documents : List (String × Json) := []
  anchors : List ((String × String) × Json) := []
  /-- References to other documents. -/
  references : List Uri := []
  /-- Pointers into the same document. -/
  pointers : List String := []

instance : Append Survey where
  append a b := ⟨a.documents ++ b.documents, a.anchors ++ b.anchors,
    a.references ++ b.references, a.pointers ++ b.pointers⟩

/-- What stands under a keyword of a schema. -/
inductive Position where
  | schema
  | schemas
  | either
  | fields
  deriving DecidableEq

/-- The keywords under which other schemas stand. -/
def position? : String → Option Position
  | "not" | "additionalItems" | "additionalProperties" => some .schema
  | "allOf" | "anyOf" | "oneOf" => some .schemas
  | "items" => some .either
  | "definitions" | "properties" | "patternProperties" | "dependencies" => some .fields
  | _ => none

def stringMember? (name : String) (ms : List (String × Json)) : Option String :=
  (Json.lookup name ms).bind Json.string?

/-- The identifier that a schema declares. One that is only a fragment names a part instead. -/
def selfId? (ms : List (String × Json)) : Option String :=
  if (Json.lookup "$ref" ms).isSome then none
  else (stringMember? "id" ms).filter fun id => !id.startsWith "#"

def anchor? (ms : List (String × Json)) : Option String :=
  (stringMember? "id" ms).bind fun id => match id.toList with
    | '#' :: name => some (String.ofList name)
    | _ => none

def parseReference (text : String) : Except Error Uri :=
  (Uri.parse text).mapError (Error.badReference text)

/-- The identifier that a reference means at a base. -/
def resolve (base : Uri) (reference : String) : Except Error Uri :=
  return (base.resolve (← parseReference reference)).lowered

/-- The base inside an object: its own identifier if it declares one. -/
def baseWithin (base : Uri) (ms : List (String × Json)) : Except Error Uri :=
  match selfId? ms with
  | some id => return (← resolve base id).withoutFragment
  | none => return base

/-- The schemas of drafts are at hand and are not asked for. -/
def isDraft (uri : String) : Bool :=
  uri.startsWith "http://json-schema.org/draft-" || uri.startsWith "https://json-schema.org/draft/"

/-- What one reference of an object asks for. -/
def surveyReference (base : Uri) (reference : String) : Except Error Survey := do
  if isDraft reference || isDraft base.text || reference = "#" then return {}
  match reference.toList with
  | '#' :: pointer => return { pointers := [String.ofList pointer] }
  | _ => return { references := [(← resolve base reference).withoutFragment] }

/-- What an object contributes and asks for by itself. -/
def surveySelf (base : Uri) (ms : List (String × Json)) : Except Error Survey := do
  let documents := if (selfId? ms).isSome then [(base.text, Json.object ms)] else []
  let anchors := (anchor? ms).toList.map fun name => ((base.text, name), Json.object ms)
  let referred ← (["$ref", "$schema"].filterMap (stringMember? · ms)).mapM (surveyReference base)
  return referred.foldl (· ++ ·) { documents, anchors }

mutual

/-- Goes over a schema and all schemas inside it. -/
def survey (base : Uri) : Json → Except Error Survey
  | .object ms => do
    let base ← baseWithin base ms
    return (← surveySelf base ms) ++ (← surveyMembers base ms)
  | _ => return {}

def surveyMembers (base : Uri) : List (String × Json) → Except Error Survey
  | [] => return {}
  | (name, v) :: rest => do
    let here ← match position? name with
      | some .schema => survey base v
      | some .schemas => surveyArray base v
      | some .either => pure ((← survey base v) ++ (← surveyArray base v))
      | some .fields => surveyFields base v
      | none => pure {}
    return here ++ (← surveyMembers base rest)

def surveyArray (base : Uri) : Json → Except Error Survey
  | .array vs => surveyItems base vs
  | _ => return {}

def surveyItems (base : Uri) : List Json → Except Error Survey
  | [] => return {}
  | v :: rest => return (← survey base v) ++ (← surveyItems base rest)

def surveyFields (base : Uri) : Json → Except Error Survey
  | .object ms => surveyValues base ms
  | _ => return {}

def surveyValues (base : Uri) : List (String × Json) → Except Error Survey
  | [] => return {}
  | (_, v) :: rest => return (← survey base v) ++ (← surveyValues base rest)

end

/-! Pointers in fragments. -/

def hexPair? (a b : Char) : Option UInt8 :=
  do return (16 * (← Text.hexValue? a) + (← Text.hexValue? b)).toUInt8

/-- The bytes of a text in which a percent sign and two digits stand for a byte. -/
def percentBytes : List Char → List UInt8
  | '%' :: a :: b :: rest => match hexPair? a b with
    | some byte => byte :: percentBytes rest
    | none => (String.singleton '%').toUTF8.toList ++ percentBytes (a :: b :: rest)
  | c :: rest => (String.singleton c).toUTF8.toList ++ percentBytes rest
  | [] => []

def percentDecode? (text : String) : Option String :=
  String.fromUTF8? ⟨(percentBytes text.toList).toArray⟩

/-- Follows the tokens of a pointer, with the base that holds at the place reached. -/
def walk (pointer : String) : List String → Uri → Json → Except Error (Uri × Json)
  | [], base, v => return (base, v)
  | token :: rest, base, .object ms => do
    match Json.lookup token ms with
    | some v => walk pointer rest (← baseWithin base ms) v
    | none => throw (.noSuchPointer pointer)
  | token :: rest, base, .array vs =>
    match Segment.position? token with
    | none => throw (.badIndex pointer token)
    | some i => match vs[i]? with
      | some v => walk pointer rest base v
      | none => throw (.noSuchPointer pointer)
  | _ :: _, _, _ => throw (.noSuchPointer pointer)

/-- The place in a document that a fragment points to. -/
def follow (fragment : String) (base : Uri) (document : Json) : Except Error (Uri × Json) := do
  match percentDecode? fragment with
  | none => throw (.badEncoding fragment)
  | some decoded => walk fragment ((Pointer.tokens? decoded).getD []) base document

/-- What a reference leads to: a schema, and the base there. -/
structure Target where
  base : Uri
  schema : Json

def Resources.document (r : Resources) (uri : Uri) : Except Error Json :=
  match r.documents.lookup uri.text with
  | some v => return v
  | none => throw (.unretrievable uri.text
      "Retrieving external resources is not supported once the registry is populated")

/-- A named part of a document, which may be known under the identifier it declares. -/
def Resources.anchor (r : Resources) (uri : Uri) (document : Json) (name : String) :
    Except Error (Uri × Json) := do
  let own ← baseWithin uri ((document.members?).getD [])
  match r.anchors.lookup (uri.text, name) <|> r.anchors.lookup (own.text, name) with
  | some v => return (uri, v)
  | none => throw (if name.contains '/' then .badAnchor name else .noSuchAnchor name)

/-- Finds what the identifier that a reference means leads to. -/
def Resources.target (r : Resources) (uri : Uri) : Except Error Target := do
  let home := uri.withoutFragment
  let document ← r.document home
  let fragment := uri.fragment.getD ""
  let (base, schema) ←
    if fragment.startsWith "/" then follow fragment home document
    else if fragment.isEmpty then pure (home, document)
    else r.anchor home document fragment
  return ⟨base, schema⟩

/-! Gathering. -/

/-- More than a memory has places. Steps that keep something each come to an end before. -/
def memoryLimit : Nat := twoTo 64

/-- A document whose references still have to be looked at. -/
structure Pending where
  base : Uri
  schema : Json

/-- Adds to a survey what the places ask for that its pointers lead to. Each pointer is looked at
once; one that leads nowhere asks for nothing. -/
def surveyPointers (base : Uri) (document : Json) :
    Nat → List String → List String → Except Error Survey
  | _, _, [] => return {}
  | 0, _, _ => return {}
  | n + 1, seen, p :: rest =>
    if seen.contains p then surveyPointers base document n seen rest
    else match follow p base document with
      | .error _ => surveyPointers base document n (p :: seen) rest
      | .ok (here, v) => do
        let found ← survey here v
        let others ← surveyPointers base document n (p :: seen) (rest ++ found.pointers)
        return { found with documents := [], anchors := [] } ++ { others with pointers := [] }

def surveyAll (p : Pending) : Except Error Survey := do
  let found ← survey p.base p.schema
  return found ++ (← surveyPointers p.base p.schema memoryLimit [] found.pointers)

def Resources.add (r : Resources) (found : Survey) : Resources :=
  ⟨found.documents ++ r.documents, found.anchors ++ r.anchors⟩

/-- Gets a document that is not known yet and notes that its references have to be looked at. -/
def Resources.fetch (retrieve : String → Except String Json) (state : Resources × List Pending)
    (uri : Uri) : Except Error (Resources × List Pending) :=
  let (r, pending) := state
  if (r.documents.lookup uri.text).isSome then return state
  else match retrieve uri.text with
    | .error reason => throw (.unretrievable uri.text reason)
    | .ok v => return ({ r with documents := (uri.text, v) :: r.documents }, pending ++ [⟨uri, v⟩])

/-- Gets the documents that references ask for, and those that they ask for in turn, through
chains of references up to a length. Every round but the last keeps a document that was not known
before, so that `memoryLimit` rounds are never used up. -/
def Resources.gather (retrieve : String → Except String Json) :
    Nat → List Pending → Resources → Except Error Resources
  | _, [], r => return r
  | 0, _, r => return r
  | n + 1, pending, r => do
    let found := (← pending.mapM surveyAll).foldl (· ++ ·) {}
    let (r, pending) ← found.references.foldlM (fetch retrieve) (r.add found, [])
    gather retrieve n pending r

end ApiReview.Schema
