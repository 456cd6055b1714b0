import ApiReview.Document.Tree
import ApiReview.Document.Context
import ApiReview.Json.Reader
import ApiReview.Text.Class

/-!
Reading a description. A text that begins with a brace is tried as JSON first; whatever is
not JSON is YAML.
-/
namespace ApiReview

inductive DocumentError where
  | json (e : Json.ReadError)
  | yaml (e : Yaml.Error)
  | unsupported (u : Unsupported)
  | notMapping

def DocumentError.message : DocumentError → String
  | .json e => "invalid JSON: " ++ e.message
  | .yaml e => "invalid YAML: " ++ e.message
  | .unsupported u => u.message
  | .notMapping => "document root must be a mapping"

namespace Document

/-- The tree of a YAML text. -/
def yamlRoot (source : String) : Except DocumentError Json :=
  match Yaml.Value.ofText source with
  | .error e => .error (.yaml e)
  | .ok v => v.toJson.mapError .unsupported

/-- The tree of a text. If a text with a brace is neither, the JSON error is given. -/
def readRoot (source : String) : Except DocumentError Json :=
  if (Text.trimStart source.toList).head? = some '{' then
    match Json.read source with
    | .ok root => .ok root
    | .error e => (yamlRoot source).mapError fun _ => .json e
  else yamlRoot source

def read (source : String) : Except DocumentError Document :=
  match readRoot source with
  | .error e => .error e
  | .ok root => if root.isObject then .ok ⟨source, root⟩ else .error .notMapping

/-- A tree that was not read from a text; its JSON text stands for one. -/
def ofTree (root : Json) : Document := ⟨root.compact, root⟩

end Document
end ApiReview
