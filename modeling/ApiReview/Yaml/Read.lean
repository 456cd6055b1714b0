import ApiReview.Yaml.Node
import ApiReview.Yaml.Value

/-!
Reading a document: aliases are followed, scalars resolved, repeated keys refused. Nesting
and the number of aliases followed are limited.
-/
namespace ApiReview.Yaml

/-- What was found where something else was expected. -/
inductive Found where
  | unit
  | bool (b : Bool)
  | number (n : Number)
  | wide (i : Int)
  | string (s : String)
  | sequence
  | mapping

def Found.text : Found → String
  | .unit => "unit value"
  | .bool b => "boolean `" ++ (if b then "true" else "false") ++ "`"
  | .number (.finite (.integer i _)) => "integer `" ++ Decimal.signedText i ++ "`"
  | .number (.finite (.float x)) => "floating point `" ++ Decimal.Layout.plainPoint.text x ++ "`"
  | .number (.infinity false) => "floating point `inf`"
  | .number (.infinity true) => "floating point `-inf`"
  | .number .notANumber => "floating point `NaN`"
  | .wide i =>
    "integer `" ++ Decimal.signedText i ++ "` as " ++ (if i < 0 then "i128" else "u128")
  | .string s => "string " ++ Text.quoted s
  | .sequence => "sequence"
  | .mapping => "map"

/-- Why the content of a document was refused. -/
inductive Cause where
  | invalidType (found : Found) (expected : String)
  | invalidValue (found : Found) (expected : String)
  | duplicateKey (key : Value)
  | duplicateField (name : String)
  | unknownField (name : String) (known : List String)
  | unknownVariant (name : String) (known : List String)

/-- The names that would have been right. -/
def oneOf (known : List String) : String :=
  let marked := known.map fun k => "`" ++ k ++ "`"
  match marked with
  | [] => "there are no fields"
  | [a] => "expected " ++ a
  | [a, b] => "expected " ++ a ++ " or " ++ b
  | _ => "expected one of " ++ ", ".intercalate marked

def Cause.text : Cause → String
  | .invalidType found expected => "invalid type: " ++ found.text ++ ", expected " ++ expected
  | .invalidValue found expected => "invalid value: " ++ found.text ++ ", expected " ++ expected
  | .duplicateKey key => "duplicate entry " ++ match key with
    | .null => "with null key"
    | .bool b => "with key `" ++ (if b then "true" else "false") ++ "`"
    | .number n => "with key " ++ n.text
    | .string s => "with key " ++ Text.quoted s
    | _ => "in YAML map"
  | .duplicateField name => "duplicate field `" ++ name ++ "`"
  | .unknownField name known => "unknown field `" ++ name ++ "`, " ++ oneOf known
  | .unknownVariant name known => "unknown variant `" ++ name ++ "`, " ++ oneOf known

/-- The keys and positions that lead to a node. A node under a key that is no scalar has no name. -/
inductive PathStep where
  | key (text : String)
  | item (index : Nat)
  | unnamed
  deriving DecidableEq

abbrev Path := List PathStep

/-- The path as it is written before a message; the root is a dot, which is then left out. -/
def Path.text (p : Path) : String :=
  let parent (s : String) := if s = "." then "" else s ++ "."
  p.foldl (fun s step => match step with
    | .key text => parent s ++ text
    | .item i => s ++ "[" ++ Decimal.text i ++ "]"
    | .unnamed => parent s ++ "?") "."

inductive Error where
  | malformed (e : SyntaxError)
  | unknownAnchor (mark : Mark)
  | recursionLimit (mark : Mark)
  | repetitionLimit
  | manyDocuments
  | endOfStream
  /-- A cause without a place gets the one of the next node around it. -/
  | content (cause : Cause) (place : Option (Mark × Path))

def Error.message : Error → String
  | .malformed e => e.message
  | .unknownAnchor m => "unknown anchor" ++ m.suffix
  | .recursionLimit m => "recursion limit exceeded" ++ m.suffix
  | .repetitionLimit => "repetition limit exceeded"
  | .manyDocuments =>
    "deserializing from YAML containing more than one document is not supported"
  | .endOfStream => "EOF while parsing a value"
  | .content cause none => cause.text
  | .content cause (some (m, path)) =>
    let path := path.text
    (if path = "." then "" else path ++ ": ") ++ cause.text ++ m.suffix

/-- Gives a cause its place, if it has none yet. -/
def Error.placed (m : Mark) (path : Path) : Error → Error
  | .content cause none => .content cause (some (m, path))
  | e => e

def LoadError.error : LoadError → Error
  | .malformed e => .malformed e
  | .unknownAnchor m => .unknownAnchor m

/-- Reading counts the aliases that were followed. -/
abbrev Reading := StateT Nat (Except Error)

/-- Reading at a node: what it refuses gets the node's place. -/
def located {α : Type} (m : Mark) (path : Path) (r : Reading α) : Reading α :=
  fun followed => (r followed).mapError (·.placed m path)

/-- A cause that is still without a place. -/
def refuse {α : Type} (cause : Cause) : Reading α := throw (.content cause none)

def refuseType {α : Type} (found : Found) (expected : String) : Reading α :=
  refuse (.invalidType found expected)

/-- The name of a local tag, without its bang. -/
def localTag? (tag : Option String) : Option String :=
  tag.bind fun t => match t.toList with
    | '!' :: rest => some (if rest.isEmpty then t else String.ofList rest)
    | _ => none

def coreTag (name : String) : String := "tag:yaml.org,2002:" ++ name

namespace LoadedDocument

/-- The error that stands where the document was cut. -/
def cutError (d : LoadedDocument) : Error := (d.failure.map (·.error)).getD .endOfStream

/-- Follows an alias. A document may have a hundred times as many of them followed as it has
events. -/
def follow (d : LoadedDocument) (id : Nat) : Reading Node := do
  let followed := (← get) + 1
  set followed
  if d.events * 100 < followed then throw .repetitionLimit
  else match d.target? id with
    | some n => return n
    | none => throw d.cutError

end LoadedDocument

/-- What a scalar means under its tag. Quoted scalars, and those with tags of other kinds, are
texts. -/
def scalarMeaning (tag : Option String) (text : String) (style : ScalarStyle) : Reading Resolved :=
  match tag with
  | none => return if style = .plain then resolve text else .string text
  | some tag =>
    let mismatch {α : Type} (expected : String) : Reading α :=
      refuse (.invalidValue (.string text) expected)
    if tag = coreTag "bool" then
      match bool? text with
      | some b => return .bool b
      | none => mismatch "a boolean"
    else if tag = coreTag "int" then
      match integer? text with
      | some r => return r
      | none => mismatch "an integer"
    else if tag = coreTag "float" then
      match float? text with
      | some n => return .number n
      | none => mismatch "a float"
    else if tag = coreTag "null" then
      if isNull text then return .null else mismatch "null"
    else if tag.startsWith "!" && style = .plain then return resolve text
    else return .string text

namespace Node

/-- A scalar as a value of any kind. -/
def scalarValue (tag : Option String) (text : String) (style : ScalarStyle) : Reading Value := do
  match ← scalarMeaning tag text style with
  | .null => return .null
  | .bool b => return .bool b
  | .number n => return .number n
  | .wide i => refuseType (.wide i) "any YAML value"
  | .string s => return .string s

def items (read : Path → Node → Reading Value) (path : Path) : Nat → List Node →
    Reading (List Value)
  | _, [] => return []
  | i, n :: rest => do
    let v ← read (path ++ [.item i]) n
    return v :: (← items read path (i + 1) rest)

/-- The step to the value under a key. -/
def keyStep : Node → PathStep
  | .scalar _ _ _ text _ => .key text
  | _ => .unnamed

/-- Entries of a mapping; `seen` holds the keys before them. -/
def entries (read : Path → Node → Reading Value) (path : Path) : List Value →
    List (Node × Node) → Reading (List (Value × Value))
  | _, [] => return []
  | seen, (k, n) :: rest => do
    let key ← read path k
    if seen.any (key.same ·) then refuse (.duplicateKey key)
    else
      let v ← read (path ++ [keyStep k]) n
      return (key, v) :: (← entries read path (key :: seen) rest)

/-- A node that is no alias. `read?` reads the nodes inside; there is none at the limit of
nesting. -/
def plainValue (d : LoadedDocument) (read? : Option (Path → Node → Reading Value)) (path : Path)
    (n : Node) : Reading Value :=
  let tagged (tag : Option String) (r : Reading Value) : Reading Value :=
    match localTag? tag with
    | some name => return .tagged name (← r)
    | none => r
  match n with
  | .scalar m _ tag text style =>
    let untagged := if (localTag? tag).isSome then none else tag
    located m path (tagged tag (scalarValue untagged text style))
  | .sequence m _ tag list =>
    match read? with
    | none => throw (.recursionLimit m)
    | some read => located m path (tagged tag do return .sequence (← items read path 0 list))
  | .mapping m _ tag pairs =>
    match read? with
    | none => throw (.recursionLimit m)
    | some read => located m path (tagged tag do return .mapping (← entries read path [] pairs))
  | .alias _ _ | .cut => throw d.cutError

/-- A node in which at most `depth` collections are nested, aliases followed. -/
def value (d : LoadedDocument) (depth : Nat) (path : Path) (n : Node) : Reading Value :=
  let plain := match depth with
    | 0 => plainValue d none
    | depth + 1 => plainValue d (some (value d depth))
  match n with
  | .alias m id => located m path do plain path (← d.follow id)
  | n => plain path n

end Node

def nestingLimit : Nat := 128

namespace LoadedDocument

/-- Reads the one document of a text. What can be read of it is read before an error at its end. -/
def whole {α : Type} (d : LoadedDocument) (read : Reading α) : Except Error α :=
  match read.run' 0 with
  | .error e => .error e
  | .ok v =>
    match d.failure with
    | some f => .error f.error
    | none => if d.more then .error .manyDocuments else .ok v

end LoadedDocument

/-- The value of a text; a text without content has none. -/
def Value.ofText (text : String) : Except Error Value :=
  let d := LoadedDocument.ofText text.toList
  d.whole (match d.root with
    | none => pure .null
    | some n => n.value d nestingLimit [])

end ApiReview.Yaml
