import ApiReview.Lint.Registry
import ApiReview.Regex.Matching
import ApiReview.Regex.Reader

/-!
The rule on media types: responses have one of the two standard names, or a name of their
own with a version parameter.
-/
namespace ApiReview.MediaTypes

/-- A pattern, in which the classes are those of Unicode. -/
def pattern? (text : String) : Option Regex := (Regex.readIn ⟨true⟩ text.toList).toOption

/-- The standard names. -/
def standardJson : Option Regex := pattern? "^application/(problem\\+)?json$"

/-- A type, a subtype and a numeric parameter `v` or `version`. -/
def versioned : Option Regex := pattern? "^\\w+/[-+.\\w]+;(v|version)=\\d+$"

def isStandardJson (mediaType : String) : Bool := standardJson.any (·.isMatch mediaType)

def isVersioned (mediaType : String) : Bool := versioned.any (·.isMatch mediaType)

def isOffending (mediaType : String) : Bool := !isStandardJson mediaType && !isVersioned mediaType

def description : String := "Custom media types should only be used for versioning"

def check (c : Context) : CheckResult :=
  if c.api.hasPaths then
    .findings ((c.mediaTypes.filter (isOffending ·.entry.mediaType)).map
      fun u => ⟨description, u.entry.pointer⟩)
  else .notApplicable

/-- The older dialect repeats the entries of a `produces` list for every response. -/
def rule : Rule where
  id := "172"
  title := "Prefer standard media type names"
  defaultSeverity := .should
  checks := [{ name := "validate", deduplicate := true, entry := .elements fun c => .ok (check c) }]

end ApiReview.MediaTypes
