import ApiReview.Config.Basic
import ApiReview.Remote.Cache

/-!
Whether a document conforms to the schema of its dialect, which is had from a configured URL.
-/
namespace ApiReview.Remote

def defaultUrl : Dialect → String
  | .swagger => "http://swagger.io/v2/schema.json"
  | .openApi3 => "https://spec.openapis.org/oas/3.0/schema/2019-04-02"

/-- The URL for a dialect: the configured one, else the default. -/
def urlFor (urls : SchemaUrls) (d : Dialect) : String := (urls.get? d).getD (defaultUrl d)

/-- How a finding says which schema it comes from. -/
def descriptionFor (d : Dialect) (description : String) : String :=
  "Does not match " ++ d.name ++ " schema: " ++ description

/-- The findings of the schema of the document's dialect. -/
def findings (server : Server) (urls : SchemaUrls) (c : Cache) (document : Json) :
    Cache × Except Schema.Error (List Finding) :=
  let d := Dialect.detect document
  let (c, loaded) := c.load server d (urlFor urls d)
  (c, loaded.map fun l => (l.validator.findings document).map fun f =>
    { f with description := descriptionFor d f.description })

end ApiReview.Remote
