import ApiReview.Json.Basic

/-!
The two families of API descriptions.
-/
namespace ApiReview

inductive Dialect where
  | swagger
  | openApi3
  deriving DecidableEq

namespace Dialect

/-- The older family first. -/
def all : List Dialect := [.swagger, .openApi3]

def name : Dialect → String
  | .swagger => "swagger"
  | .openApi3 => "openapi3"

def ofName? (s : String) : Option Dialect := all.find? (·.name = s)

/-- A root member `swagger` marks the older family; everything else is the newer one. -/
def detect (root : Json) : Dialect :=
  if (root.get? "swagger").isSome then .swagger else .openApi3

end Dialect
end ApiReview
