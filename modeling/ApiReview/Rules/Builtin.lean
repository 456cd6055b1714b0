import ApiReview.Lint.Error
import ApiReview.Lint.Run
import ApiReview.Remote.Conformance
import ApiReview.Rules.MediaTypes
import ApiReview.Rules.UseOpenApi

/-!
The built-in rules, and linting with them over a cache of schemas.
-/
namespace ApiReview

namespace Config

/-- The URLs that the settings of the schema rule give. -/
def schemaUrls (config : Config) : SchemaUrls :=
  ((config.rules.get? UseOpenApi.id).map (·.schemaUrls)).getD {}

/-- Sets a URL of the schema rule. -/
def withSchemaUrl (config : Config) (d : Dialect) (url : String) : Config :=
  let settings : RuleSettings := (config.rules.get? UseOpenApi.id).getD {}
  let settings := { settings with schemaUrls := settings.schemaUrls.set d url }
  { config with rules := config.rules.insert UseOpenApi.id settings }

end Config

/-- The rule on the description itself, over a cache as it is now. -/
def schemaRule (server : Remote.Server) (urls : SchemaUrls) (cache : Remote.Cache) : Rule :=
  UseOpenApi.rule fun root =>
    (Remote.findings server urls cache root).2.mapError fun e =>
      .error ["invalid schema: " ++ e.message]

namespace Registry

/-- The built-in rules without settings. -/
def plainBuiltins (server : Remote.Server) (urls : SchemaUrls) (cache : Remote.Cache) : Registry :=
  (empty.register (schemaRule server urls cache)).register MediaTypes.rule

/-- The built-in rules under a configuration, which must not name other rules. -/
def builtins (server : Remote.Server) (cache : Remote.Cache) (config : Config) :
    Except LintError Registry :=
  match (plainBuiltins server config.schemaUrls cache).configure config with
  | (r, none) => .ok r
  | (_, some id) => .error (.unknownRule id)

/-- Reads a text as a description and lints it. -/
def lintText (r : Registry) (text : String) : Except LintError Report :=
  ((Document.read text).mapError .malformedDocument).map r.lint

end Registry
end ApiReview
