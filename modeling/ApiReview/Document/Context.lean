import ApiReview.Document.Model

/-!
What checks see of a document: its text, its tree, its dialect and its model.
-/
namespace ApiReview

/-- A description and the text it was read from. -/
structure Document where
  source : String
  root : Json

def Document.dialect (d : Document) : Dialect := .detect d.root

structure Context where
  source : String
  root : Json
  dialect : Dialect
  api : ApiModel

/-- A media type of a response, and how it is reached. -/
structure MediaTypeUse where
  path : String
  method : String
  status : String
  entry : MediaTypeEntry
  deriving DecidableEq

namespace Context

def ofDocument (d : Document) : Context :=
  ⟨d.source, d.root, d.dialect, .ofRoot d.dialect d.root⟩

/-- All media types of all responses, in document order. -/
def mediaTypes (c : Context) : List MediaTypeUse :=
  c.api.paths.flatMap fun item =>
    item.operations.flatMap fun operation =>
      operation.responses.flatMap fun response =>
        response.content.map fun entry => ⟨item.path, operation.method, response.status, entry⟩

end Context
end ApiReview
