import ApiReview.Config.Basic
import ApiReview.Json.Basic

/-!
Settings as a tree. What is absent or empty is left out.
-/
namespace ApiReview

/-- A member, unless it is left out. -/
def memberUnless (absent : Bool) (name : String) (v : Json) : List (String × Json) :=
  if absent then [] else [(name, v)]

def SchemaUrls.members (u : SchemaUrls) : List (String × Json) :=
  Dialect.all.filterMap fun d => (u.get? d).map fun url => (d.name, .string url)

def RuleSettings.toJson (s : RuleSettings) : Json :=
  .object ([("enabled", .bool s.enabled)] ++
    (s.severity.map fun v => ("severity", Json.string v.name)).toList ++
    memberUnless s.schemaUrls.members.isEmpty "schema_urls" (.object s.schemaUrls.members))

def Config.toJson (c : Config) : Json :=
  .object ([("schema_fetch_timeout_secs", .int c.schemaFetchTimeoutSecs.toNat)] ++
    memberUnless c.rules.entries.isEmpty "rules"
      (.object (c.rules.entries.map fun (id, s) => (id, s.toJson))))

end ApiReview
