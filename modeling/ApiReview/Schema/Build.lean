import ApiReview.Bundled.Resource
import ApiReview.Schema.Reader
import ApiReview.Schema.Validator

/-!
Validators from schemas in JSON. First the documents are gathered that the schema refers to,
then the schema is checked by the schema of schemas, then it is read. Whichever of these fails
first says why the schema cannot be used.
-/
namespace ApiReview
namespace Schema

/-- The base of a schema that declares no identifier. -/
def defaultBase : Uri := { scheme := some "json-schema", authority := some "", path := "/" }

/-- The schema of schemas under its identifier, which every schema may refer to. -/
def draftResources : Resources :=
  { documents := [("http://json-schema.org/draft-04/schema", Bundled.Draft4.applied)] }

/-- The schema and all documents that it refers to. -/
def gatherFor (retrieve : String → Except String Json) (schema : Json) :
    Except Error Resources := do
  let base ← baseWithin defaultBase ((schema.members?).getD [])
  Resources.gather retrieve memoryLimit [⟨defaultBase, schema⟩]
    { draftResources with documents := (base.text, schema) :: draftResources.documents }

/-- Reads a schema whose documents have been gathered. -/
def read (formats : Bool) (resources : Resources) (schema : Json) : Except Error Validator := do
  let (root, table) ←
    (ofJson ⟨followWithin resources formats memoryLimit, formats⟩ defaultBase schema).run {}
  return ⟨root, table.schemas⟩

/-- The schema of schemas, with formats. -/
def metaschema : Except Error Validator := read true draftResources Bundled.Draft4.applied

/-- Refuses what is not a schema, for the first fault that it has. -/
def check (schema : Json) : Except Error Unit := do
  match ((← metaschema).faults schema).head? with
  | some fault => throw (.malformed fault.failure)
  | none => return ()

/-- The validator of a schema, with a way to get other documents. -/
def Validator.build (retrieve : String → Except String Json) (schema : Json) :
    Except Error Validator := do
  let resources ← gatherFor retrieve schema
  check schema
  read false resources schema

/-- Removes the first member of a name. The last member moves into its place. -/
def swapRemove (name : String) (ms : List (String × Json)) : List (String × Json) :=
  match ms.findIdx? (·.1 = name) with
  | none => ms
  | some i => match ms.getLast? with
    | none => ms
    | some last => (ms.set i last).dropLast

/-- A schema without the identifier that it declares for itself, under either name. -/
def withoutSelfId : Json → Json
  | .object ms => .object (swapRemove "$id" (swapRemove "id" ms))
  | v => v

end Schema

/-! The validators of the two dialects, built from the schemas at hand. -/

namespace Bundled

def build (r : Resource) : Except Schema.Error Schema.Validator :=
  Schema.Validator.build retrieve (Schema.withoutSelfId r.document)

def swaggerValidator : Except Schema.Error Schema.Validator := build swagger

def openApi3Validator : Except Schema.Error Schema.Validator := build openApi3

def validator : Dialect → Except Schema.Error Schema.Validator
  | .swagger => swaggerValidator
  | .openApi3 => openApi3Validator

end Bundled
end ApiReview
