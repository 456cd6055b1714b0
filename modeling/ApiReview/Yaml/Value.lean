import ApiReview.Yaml.Scalar
import ApiReview.Text.Quoted

/-!
YAML values: what a document means once aliases are expanded. Local tags are kept.
-/
namespace ApiReview.Yaml

inductive Value where
  | null
  | bool (b : Bool)
  | number (n : Number)
  | string (s : String)
  | sequence (items : List Value)
  | mapping (entries : List (Value × Value))
  | tagged (tag : String) (value : Value)
  deriving Inhabited

namespace Value

mutual

/-- Equal as keys; the order of a mapping's entries does not count. -/
def same : Value → Value → Bool
  | .null, .null => true
  | .bool a, .bool b => a == b
  | .number a, .number b => a.same b
  | .string a, .string b => a == b
  | .sequence a, .sequence b => sameItems a b
  | .mapping a, .mapping b => a.length == b.length && within a b
  | .tagged t a, .tagged u b => t == u && same a b
  | _, _ => false

def sameItems : List Value → List Value → Bool
  | [], [] => true
  | a :: as, b :: bs => same a b && sameItems as bs
  | _, _ => false

/-- Whether each entry of the first is one of the second. -/
def within : List (Value × Value) → List (Value × Value) → Bool
  | [], _ => true
  | (k, v) :: rest, bs => bs.any (fun (l, w) => same k l && same v w) && within rest bs

end

mutual

/-- The value spelled out with the names of its kinds. -/
def shown : Value → String
  | .null => "Null"
  | .bool b => "Bool(" ++ (if b then "true" else "false") ++ ")"
  | .number n => "Number(" ++ n.text ++ ")"
  | .string s => "String(" ++ Text.quoted s ++ ")"
  | .sequence items => "Sequence [" ++ shownItems items ++ "]"
  | .mapping entries => "Mapping \x7b" ++ shownEntries entries ++ "\x7d"
  | .tagged tag v => "TaggedValue \x7b tag: !" ++ tag ++ ", value: " ++ shown v ++ " \x7d"

def shownItems : List Value → String
  | [] => ""
  | [v] => shown v
  | v :: rest => shown v ++ ", " ++ shownItems rest

/-- Plain keys stand without the name of their kind. -/
def shownKey : Value → String
  | .bool b => if b then "true" else "false"
  | .number n => n.text
  | .string s => Text.quoted s
  | .null => "Null"
  | .sequence items => "Sequence [" ++ shownItems items ++ "]"
  | .mapping entries => "Mapping \x7b" ++ shownEntries entries ++ "\x7d"
  | .tagged tag v => "TaggedValue \x7b tag: !" ++ tag ++ ", value: " ++ shown v ++ " \x7d"

def shownEntries : List (Value × Value) → String
  | [] => ""
  | [(k, v)] => shownKey k ++ ": " ++ shown v
  | (k, v) :: rest => shownKey k ++ ": " ++ shown v ++ ", " ++ shownEntries rest

end

end Value
end ApiReview.Yaml
