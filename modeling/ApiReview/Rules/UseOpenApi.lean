import ApiReview.Lint.Registry
import ApiReview.Text.Class

/-!
The rule on the description itself: it satisfies the schema of its dialect and is written
in YAML. How the schema's findings come about is a parameter.
-/
namespace ApiReview.UseOpenApi

/-- Whether a text, without blanks at its ends, stands between braces. -/
def isBraced (source : String) : Bool :=
  let cs := Text.trim source.toList
  cs.head? == some '{' && cs.getLast? == some '}'

def formatFinding? (c : Context) : Option Finding :=
  if isBraced c.source then some ⟨"must use YAML format", Pointer.root⟩ else none

def id : String := "101"

def rule (schemaFindings : Json → Except CheckFailure (List Finding)) : Rule where
  id := id
  title := "Provide API Specification using OpenAPI"
  defaultSeverity := .must
  checks := [
    { name := "validate_schema", severity := some .must, stage := .schema
      entry := .document schemaFindings },
    { name := "check_yaml_format", severity := some .must
      entry := .context fun c => .ok (formatFinding? c) }]

end ApiReview.UseOpenApi
