import ApiReview.Yaml.Read
import ApiReview.Json.Printer

/-!
From YAML values to JSON values. Keys become texts; two keys with one text are one member,
at the place of the first with the value of the last.
-/
namespace ApiReview

/-- What a JSON value cannot hold. -/
inductive Unsupported where
  | key (value : Yaml.Value)
  | number (n : Yaml.Number)

def Unsupported.message : Unsupported → String
  | .key v => "unsupported mapping key: " ++ v.shown
  | .number n => "unsupported number: " ++ n.text

namespace Yaml.Value

def toNumber : Yaml.Number → Except Unsupported ApiReview.Number
  | .finite n => .ok n
  | n => .error (.number n)

/-- The text of a scalar key; tags do not count. -/
def keyText : Value → Except Unsupported String
  | .string s => .ok s
  | .number n => .ok n.text
  | .bool b => .ok (if b then "true" else "false")
  | .null => .ok "null"
  | .tagged _ v => keyText v
  | v => .error (.key v)

mutual

def toJson : Value → Except Unsupported Json
  | .null => .ok .null
  | .bool b => .ok (.bool b)
  | .number n => (toNumber n).map .number
  | .string s => .ok (.string s)
  | .sequence items => (toItems items).map .array
  | .mapping entries => (toMembers [] entries).map .object
  | .tagged _ v => toJson v

def toItems : List Value → Except Unsupported (List Json)
  | [] => .ok []
  | v :: rest => do
    let j ← toJson v
    return j :: (← toItems rest)

/-- Members after those that are there already. -/
def toMembers (read : List (String × Json)) : List (Value × Value) →
    Except Unsupported (List (String × Json))
  | [] => .ok read
  | (k, v) :: rest => do
    let name ← keyText k
    let j ← toJson v
    toMembers (Json.insert name j read) rest

end

end Yaml.Value
end ApiReview
