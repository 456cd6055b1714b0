import ApiReview.Schema.Failure
import ApiReview.Uri

/-!
Why a schema cannot be used.
-/
namespace ApiReview.Schema

inductive Error where
  /-- A resource that a reference names could not be had. -/
  | unretrievable (uri reason : String)
  | noSuchPointer (pointer : String)
  | badEncoding (pointer : String)
  | badIndex (pointer index : String)
  | noSuchAnchor (name : String)
  | badAnchor (name : String)
  | badReference (text : String) (fault : UriFault)
  /-- The schema itself, or a part of it, is not what a schema has to be. -/
  | malformed (failure : Failure)
  /-- A reference behind more new ones than the documents can have. -/
  | endless (text : String)
  /-- An error that another call had before. -/
  | earlier (message : String)

def Error.message : Error → String
  | unretrievable uri reason =>
    "Resource '" ++ uri ++ "' is not present in a registry and retrieving it failed: " ++ reason
  | noSuchPointer pointer => "Pointer '" ++ pointer ++ "' does not exist"
  | badEncoding pointer =>
    "Invalid percent encoding in pointer '" ++ pointer ++
      "': the decoded bytes do not represent valid UTF-8"
  | badIndex pointer index =>
    "Failed to parse array index '" ++ index ++ "' in pointer '" ++ pointer ++ "'"
  | noSuchAnchor name => "Anchor '" ++ name ++ "' does not exist"
  | badAnchor name => "Anchor '" ++ name ++ "' is invalid"
  | badReference text fault => "Invalid URI reference '" ++ text ++ "': " ++ fault.message
  | malformed failure => failure.message
  | endless text => "Reference '" ++ text ++ "' has no end"
  | earlier message => message

/-- A part of a schema that is of the wrong kind. -/
def Error.ofKind (kinds : List Kind) (v : Json) : Error := .malformed (.unmet (.kind kinds) v)

end ApiReview.Schema
