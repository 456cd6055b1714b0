import ApiReview.Bundled.Draft4
import ApiReview.Bundled.Draft4.Text
import ApiReview.Bundled.OpenApi3
import ApiReview.Bundled.Swagger
import ApiReview.Document.Dialect
import ApiReview.Json.Printer

/-!
The schemas that are at hand without a download, by name and by their well-known identifiers.
-/
namespace ApiReview.Bundled

/-- A schema with its name and the text in which it is published. -/
structure Resource where
  name : String
  text : String
  document : Json

def draft4 : Resource := ⟨"json-schema.json", Draft4.text, Draft4.document⟩

def swagger : Resource :=
  ⟨"swagger-schema.json", Swagger.document.indented ⟨2, false⟩ ++ "\n", Swagger.document⟩

def openApi3 : Resource :=
  ⟨"openapi3-schema.json", OpenApi3.document.indented ⟨2, true⟩, OpenApi3.document⟩

def resources : List Resource := [draft4, swagger, openApi3]

def resource? (name : String) : Option Resource := resources.find? (·.name = name)

/-- Why a name is refused. -/
def unknownMessage (name : String) : String := "no bundled schema named '" ++ name ++ "'"

/-- The schema of a dialect. -/
def ofDialect : Dialect → Resource
  | .swagger => swagger
  | .openApi3 => openApi3

def wellKnown : List (String × Resource) := [
  ("http://json-schema.org/draft-04/schema", draft4),
  ("http://swagger.io/v2/schema.json", swagger),
  ("http://openapis.org/v3/schema.json", openApi3),
  ("https://spec.openapis.org/oas/3.0/schema/2019-04-02", openApi3)]

/-- The schema that a well-known identifier means; a fragment does not matter. -/
def redirect? (uri : String) : Option Resource :=
  wellKnown.lookup (String.ofList (uri.toList.takeWhile (· ≠ '#')))

/-- Answers well-known identifiers and refuses all others. -/
def retrieve (uri : String) : Except String Json :=
  match redirect? uri with
  | some r => .ok r.document
  | none => .error ("no local schema for '" ++ uri ++ "'")

end ApiReview.Bundled
