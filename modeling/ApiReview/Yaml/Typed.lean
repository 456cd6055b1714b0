import ApiReview.Yaml.Read

/-!
Reading nodes that have to be of a certain kind. What was found instead, and where, is told.
-/
namespace ApiReview.Yaml

def Resolved.found : Resolved → Found
  | .null => .unit
  | .bool b => .bool b
  | .number n => .number n
  | .wide i => .wide i
  | .string s => .string s

namespace Node

def tag? : Node → Option String
  | .scalar _ _ tag _ _ | .sequence _ _ tag _ | .mapping _ _ tag _ => tag
  | .alias _ _ | .cut => none

/-- Follows an alias and reads the node it stands for. -/
def behindAlias {α : Type} (d : LoadedDocument) (read : Path → Node → Reading α) (path : Path) :
    Node → Reading α
  | .alias m id => located m path do read path (← d.follow id)
  | n => read path n

/-- Refuses a node of another kind than the expected one. -/
def refuseKind {α : Type} (d : LoadedDocument) (expected : String) : Node → Reading α
  | .scalar _ _ tag text style => do refuseType (← scalarMeaning tag text style).found expected
  | .sequence .. => refuseType .sequence expected
  | .mapping .. => refuseType .mapping expected
  | .alias .. | .cut => throw d.cutError

/-- A scalar's text, read further; any style and tag will do. -/
def readText {α : Type} (d : LoadedDocument) (expected : String) (read : String → Reading α) :
    Path → Node → Reading α :=
  behindAlias d fun path n => located n.mark path (match n with
    | .scalar _ _ _ text _ => read text
    | n => refuseKind d expected n)

/-- A plain scalar, or a literal one with the tag of its kind, read by its text. -/
def readLiteral {α : Type} (d : LoadedDocument) (kind expected : String)
    (read? : String → Option α) : Path → Node → Reading α :=
  behindAlias d fun path n => located n.mark path (match n with
    | .scalar _ _ tag text style =>
      if style = .plain || (style = .literal && tag = some (coreTag kind)) then
        match read? text with
        | some v => return v
        | none => refuseKind d expected n
      else refuseKind d expected n
    | n => refuseKind d expected n)

/-- The entries of a mapping. An empty plain scalar is a mapping without entries. -/
def readMapping {α : Type} (d : LoadedDocument) (expected : String)
    (read : Path → List (Node × Node) → Reading α) : Path → Node → Reading α :=
  behindAlias d fun path n => located n.mark path (match n with
    | .mapping _ _ _ pairs => read path pairs
    | .scalar _ _ _ text style =>
      if text.isEmpty && style = .plain then read path [] else refuseKind d expected n
    | n => refuseKind d expected n)

/-- Whether a scalar is nothing at all, which a plain one without a tag can be. -/
def isAbsent (tag : Option String) (text : String) (style : ScalarStyle) : Reading Bool :=
  match tag with
  | none => return style = .plain && (text.isEmpty || isNull text)
  | some tag =>
    if style = .plain && tag = coreTag "null" then
      if isNull text then return true else refuse (.invalidValue (.string text) "null")
    else return false

/-- A node that may be absent. -/
def readOptional {α : Type} (d : LoadedDocument) (read : Path → Node → Reading α) (path : Path)
    (n : Node) : Reading (Option α) := do
  let n ← match n with
    | .alias _ id => d.follow id
    | n => pure n
  match n with
  | .scalar _ _ tag text style => if ← isAbsent tag text style then return none else read path n
  | n => read path n

/-- One of several names. -/
def variant {α : Type} (known : List (String × α)) (name : String) : Reading α :=
  match known.lookup name with
  | some v => return v
  | none => refuse (.unknownVariant name (known.map Prod.fst))

/-- The content under a tag that says all: there has to be none. -/
def readNothing (d : LoadedDocument) (path : Path) (n : Node) : Reading Unit :=
  located n.mark path (match n with
    | .scalar _ _ _ text style =>
      if style = .plain && (text.isEmpty || isNull text) then pure ()
      else refuse (.invalidValue (.string text) "null")
    | n => refuseKind d "unit" n)

/-- One of several names, written as a scalar or as a tag. -/
def readVariant {α : Type} (d : LoadedDocument) (known : List (String × α)) :
    Path → Node → Reading α :=
  behindAlias d fun path n =>
    match localTag? n.tag? with
    | some name => do
      let v ← variant known name
      readNothing d path n
      return v
    | none => located n.mark path (match n with
      | .scalar _ _ _ text _ => variant known text
      | n => refuseKind d "a YAML tag starting with '!'" n)

/-- The path of the value under a key. -/
def under (path : Path) (key : Node) : Path := path ++ [keyStep key]

/-- The name of a field, which has to be a known one. -/
def readField (d : LoadedDocument) (known : List String) : Path → Node → Reading String :=
  readText d "field identifier" fun name =>
    if known.contains name then return name else refuse (.unknownField name known)

end Node
end ApiReview.Yaml
