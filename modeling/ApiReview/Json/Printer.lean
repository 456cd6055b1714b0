import ApiReview.Json.Basic
import ApiReview.Decimal.Shortest

/-!
JSON text. `compact` has no spaces; `indented` puts every member and item on a line
of its own. Both write strings and numbers alike.
-/
namespace ApiReview
namespace Json

/-- A lower-case hexadecimal digit. -/
def hexDigit (n : Nat) : Char := if n < 10 then Char.ofNat (48 + n) else Char.ofNat (87 + n)

/-- A character inside a quoted string. Only quotes, backslashes and controls are escaped. -/
def escapeChar (c : Char) : List Char :=
  if c = '"' then ['\\', '"']
  else if c = '\\' then ['\\', '\\']
  else if c = '\n' then ['\\', 'n']
  else if c = '\r' then ['\\', 'r']
  else if c = '\t' then ['\\', 't']
  else if c = '\x08' then ['\\', 'b']
  else if c = '\x0c' then ['\\', 'f']
  else if c.toNat < 32 then ['\\', 'u', '0', '0', hexDigit (c.toNat / 16), hexDigit (c.toNat % 16)]
  else [c]

def quoted (s : String) : List Char := '"' :: s.toList.flatMap escapeChar ++ ['"']

/-- Doubles always show a point or an exponent, which tells them from whole numbers. -/
def floatLayout : Decimal.Layout := ⟨some (-4, 16), true, true⟩

def numberChars : Number → List Char
  | .integer i _ => Decimal.signedDigits i
  | .float x => floatLayout.chars x

mutual

def chars : Json → List Char
  | .null => ['n', 'u', 'l', 'l']
  | .bool true => ['t', 'r', 'u', 'e']
  | .bool false => ['f', 'a', 'l', 's', 'e']
  | .number n => numberChars n
  | .string s => quoted s
  | .array items => '[' :: itemsChars items ++ [']']
  | .object members => '{' :: membersChars members ++ ['}']

/-- Items with commas between them. -/
def itemsChars : List Json → List Char
  | [] => []
  | [v] => chars v
  | v :: rest => chars v ++ ',' :: itemsChars rest

def membersChars : List (String × Json) → List Char
  | [] => []
  | [(k, v)] => quoted k ++ ':' :: chars v
  | (k, v) :: rest => quoted k ++ ':' :: chars v ++ ',' :: membersChars rest

end

/-- The text without spaces. -/
def compact (v : Json) : String := String.ofList (chars v)

def newline (step depth : Nat) : List Char := '\n' :: List.replicate (step * depth) ' '

/-- How a text is broken into lines. -/
structure Indent where
  /-- Spaces a level. -/
  step : Nat
  /-- Whether the brackets of an empty object stand on two lines. -/
  openEmpty : Bool

mutual

def indentedChars (style : Indent) (depth : Nat) : Json → List Char
  | .array [] => ['[', ']']
  | .array items =>
    '[' :: itemLines style depth items ++ newline style.step depth ++ [']']
  | .object [] => '{' :: (if style.openEmpty then newline style.step depth else []) ++ ['}']
  | .object members =>
    '{' :: memberLines style depth members ++ newline style.step depth ++ ['}']
  | v => chars v

def itemLines (style : Indent) (depth : Nat) : List Json → List Char
  | [] => []
  | [v] => newline style.step (depth + 1) ++ indentedChars style (depth + 1) v
  | v :: rest =>
    newline style.step (depth + 1) ++ indentedChars style (depth + 1) v ++
      ',' :: itemLines style depth rest

def memberLines (style : Indent) (depth : Nat) : List (String × Json) → List Char
  | [] => []
  | [(k, v)] =>
    newline style.step (depth + 1) ++ quoted k ++ ':' :: ' ' ::
      indentedChars style (depth + 1) v
  | (k, v) :: rest =>
    newline style.step (depth + 1) ++ quoted k ++ ':' :: ' ' ::
      indentedChars style (depth + 1) v ++ ',' :: memberLines style depth rest

end

/-- The text with a line for every member and item. -/
def indented (style : Indent) (v : Json) : String := String.ofList (indentedChars style 0 v)

end Json
end ApiReview
