import ApiReview.Document.Dialect
import ApiReview.Pointer

/-!
Paths, operations, responses and media types of a description, the same shape for both
dialects. Every node carries the place it was read from. What has another shape than
expected is left out.
-/
namespace ApiReview

structure MediaTypeEntry where
  mediaType : String
  pointer : Pointer
  deriving DecidableEq

structure Response where
  /-- A status code or `default`, as written. -/
  status : String
  pointer : Pointer
  content : List MediaTypeEntry
  deriving DecidableEq

structure Operation where
  /-- In lower case. -/
  method : String
  pointer : Pointer
  responses : List Response
  deriving DecidableEq

structure PathItem where
  path : String
  pointer : Pointer
  operations : List Operation
  deriving DecidableEq

structure ApiModel where
  /-- Whether there is a `paths` member at all. -/
  hasPaths : Bool
  paths : List PathItem
  deriving DecidableEq

namespace ApiModel

/-- The members that are operations inside a path item. -/
def httpMethods : List String :=
  ["get", "put", "post", "delete", "options", "head", "patch", "trace"]

/-- Lower case for the letters of ASCII alone. -/
def lowerCase (s : String) : String := s.map Char.toLower

def isMethod (name : String) : Bool := httpMethods.contains (lowerCase name)

/-- The members of an object under a name; none if there is no such object. -/
def membersAt (name : String) (members : List (String × Json)) : List (String × Json) :=
  ((Json.lookup name members).bind Json.members?).getD []

/-- The string items of a list, with their positions in it. -/
def stringEntries (base : Pointer) (position : Nat) : List Json → List MediaTypeEntry
  | [] => []
  | .string s :: rest => ⟨s, base.index position⟩ :: stringEntries base (position + 1) rest
  | _ :: rest => stringEntries base (position + 1) rest

/-- The media types of a `produces` list, if there is one. -/
def produces? (base : Pointer) (members : List (String × Json)) : Option (List MediaTypeEntry) :=
  ((Json.lookup "produces" members).bind Json.items?).map (stringEntries (base.key "produces") 0)

/-- The media types of an OpenAPI 3 response: the names under `content`. -/
def contentEntries (base : Pointer) (response : Json) : List MediaTypeEntry :=
  (((response.get? "content").bind Json.members?).getD []).map fun (name, _) =>
    ⟨name, (base.key "content").key name⟩

/-- The responses of an operation, whose media types `content` finds. -/
def responses (content : Pointer → Json → List MediaTypeEntry) (base : Pointer)
    (operation : List (String × Json)) : List Response :=
  (membersAt "responses" operation).map fun (status, response) =>
    let pointer := (base.key "responses").key status
    ⟨status, pointer, content pointer response⟩

/-- The operations of a path item; `content` finds a response's media types, given its operation. -/
def operations (content : Pointer → List (String × Json) → Pointer → Json → List MediaTypeEntry)
    (base : Pointer) (item : List (String × Json)) : List Operation :=
  item.filterMap fun (name, value) =>
    if isMethod name then
      value.members?.map fun operation =>
        let pointer := base.key name
        ⟨lowerCase name, pointer, responses (content pointer operation) pointer operation⟩
    else none

/-- The path items of a root. -/
def pathItems (content : Pointer → List (String × Json) → Pointer → Json → List MediaTypeEntry)
    (root : Json) : List PathItem :=
  (((root.get? "paths").bind Json.members?).getD []).filterMap fun (path, value) =>
    value.members?.map fun item =>
      let pointer := (Pointer.root.key "paths").key path
      ⟨path, pointer, operations content pointer item⟩

/-- Where a dialect declares a response's media types. In the older one the operation's
`produces`, even an empty one, replaces the root's. -/
def content (dialect : Dialect) (root : Json) (base : Pointer) (operation : List (String × Json))
    (response : Pointer) (value : Json) : List MediaTypeEntry :=
  match dialect with
  | .openApi3 => contentEntries response value
  | .swagger =>
    (produces? base operation).getD
      ((produces? Pointer.root (root.members?.getD [])).getD [])

def ofRoot (dialect : Dialect) (root : Json) : ApiModel :=
  ⟨(root.get? "paths").isSome, pathItems (content dialect root) root⟩

end ApiModel
end ApiReview
