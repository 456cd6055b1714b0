import ApiReview.Json.Basic
import ApiReview.Decimal.Digits
import ApiReview.Text.Class

/-!
Reading JSON text. Each step takes what remains of the text and returns what it leaves;
a failure names its cause and the bytes that were still ahead, from which `read` finds
the line and column. The nesting limit is the argument the recursion is on.
-/
namespace ApiReview
namespace Json

inductive Fault where
  | endInObject | endInList | endInString | endInValue
  | expectedValue | expectedIdent | expectedColon
  | expectedCommaOrBrace | expectedCommaOrBracket
  | keyNotString | trailingComma | trailingCharacters
  | invalidEscape | invalidNumber | numberOutOfRange
  | loneSurrogate | unexpectedEndOfHexEscape | controlCharacter
  | recursionLimit
  deriving DecidableEq

def Fault.message : Fault → String
  | .endInObject => "EOF while parsing an object"
  | .endInList => "EOF while parsing a list"
  | .endInString => "EOF while parsing a string"
  | .endInValue => "EOF while parsing a value"
  | .expectedValue => "expected value"
  | .expectedIdent => "expected ident"
  | .expectedColon => "expected `:`"
  | .expectedCommaOrBrace => "expected `,` or `\x7d`"
  | .expectedCommaOrBracket => "expected `,` or `]`"
  | .keyNotString => "key must be a string"
  | .trailingComma => "trailing comma"
  | .trailingCharacters => "trailing characters"
  | .invalidEscape => "invalid escape"
  | .invalidNumber => "invalid number"
  | .numberOutOfRange => "number out of range"
  | .loneSurrogate => "lone leading surrogate in hex escape"
  | .unexpectedEndOfHexEscape => "unexpected end of hex escape"
  | .controlCharacter => "control character (\\u0000-\\u001F) found while parsing a string"
  | .recursionLimit => "recursion limit exceeded"

/-- The bytes that a text takes in UTF-8. -/
def bytes (cs : List Char) : Nat := cs.foldl (fun n c => n + c.utf8Size) 0

/-- A cause, and how many bytes stand after the place it is reported at. -/
structure Failure where
  fault : Fault
  ahead : Nat
  deriving DecidableEq

abbrev Step (α : Type) := Except Failure (α × List Char)

/-- Goes on with what a step read and left. -/
def andThen {α β : Type} (s : Step α) (next : α → List Char → Step β) : Step β :=
  match s with
  | .ok (a, rest) => next a rest
  | .error e => .error e

/-- Reported just before what remains. -/
def failAt {α : Type} (fault : Fault) (rest : List Char) : Except Failure α :=
  .error ⟨fault, bytes rest⟩

/-- Reported just after the next byte, if there is one. -/
def failAfter {α : Type} (fault : Fault) (rest : List Char) : Except Failure α :=
  .error ⟨fault, bytes rest - 1⟩

def isBlank (c : Char) : Bool := c = ' ' || c = '\n' || c = '\t' || c = '\r'

def skipBlanks (cs : List Char) : List Char := cs.dropWhile isBlank

/-- The rest of a fixed word. -/
def word (value : Json) : List Char → List Char → Step Json
  | [], rest => .ok (value, rest)
  | _ :: _, [] => failAt .endInValue []
  | w :: ws, c :: rest => if c = w then word value ws rest else failAfter .expectedIdent (c :: rest)

/-- Four hexadecimal digits. -/
def hexEscape (cs : List Char) : Step Nat :=
  match cs with
  | a :: b :: c :: d :: rest =>
    match Text.hexValue? a, Text.hexValue? b, Text.hexValue? c, Text.hexValue? d with
    | some a, some b, some c, some d => .ok (4096 * a + 256 * b + 16 * c + d, rest)
    | _, _, _, _ => .error ⟨.invalidEscape, bytes cs - 4⟩
  | _ =>
    if bytes cs < 4 then failAt .endInString [] else .error ⟨.invalidEscape, bytes cs - 4⟩

/-- The character of a `\u` escape; beyond the basic plane it takes two. -/
def unicodeEscape (cs : List Char) : Step Char :=
  andThen (hexEscape cs) fun high rest =>
    if 0xDC00 ≤ high ∧ high ≤ 0xDFFF then failAt .loneSurrogate rest
    else if high < 0xD800 ∨ 0xDBFF < high then .ok (Char.ofNat high, rest)
    else match rest with
      | [] => failAt .endInString []
      | '\\' :: [] => failAt .endInString []
      | '\\' :: 'u' :: rest =>
        andThen (hexEscape rest) fun low rest =>
          if low < 0xDC00 ∨ 0xDFFF < low then failAt .loneSurrogate rest
          else .ok (Char.ofNat (0x10000 + 1024 * (high - 0xD800) + (low - 0xDC00)), rest)
      | '\\' :: rest => failAfter .unexpectedEndOfHexEscape rest
      | rest => failAfter .unexpectedEndOfHexEscape rest

/-- What follows a backslash. -/
def escape : List Char → Step Char
  | [] => failAt .endInString []
  | 'u' :: rest => unicodeEscape rest
  | c :: rest =>
    match c with
    | '"' => .ok ('"', rest)
    | '\\' => .ok ('\\', rest)
    | '/' => .ok ('/', rest)
    | 'b' => .ok ('\x08', rest)
    | 'f' => .ok ('\x0c', rest)
    | 'n' => .ok ('\n', rest)
    | 'r' => .ok ('\r', rest)
    | 't' => .ok ('\t', rest)
    | _ => failAfter .invalidEscape (c :: rest)

/-- The inside of a string and its closing quote; `budget` is at least the number of characters. -/
def stringBody (budget : Nat) (read : List Char) (cs : List Char) : Step String :=
  match budget, cs with
  | _, [] => failAt .endInString []
  | 0, _ => failAt .endInString []
  | budget + 1, c :: rest =>
    if c = '"' then .ok (String.ofList read.reverse, rest)
    else if c = '\\' then
      andThen (escape rest) fun c rest => stringBody budget (c :: read) rest
    else if c.toNat < 32 then failAfter .controlCharacter cs
    else stringBody budget (c :: read) rest

/-- Adds digits to a significand while it fits in an unsigned 64-bit word; how many were added. -/
def absorb (limit : Nat) : Nat → List Char → Nat × Nat
  | n, [] => (n, 0)
  | n, c :: cs =>
    let next := 10 * n + Decimal.digitValue c
    if next ≤ limit then
      let (n, taken) := absorb limit next cs
      (n, taken + 1)
    else (n, 0)

/-- The double nearest to a power of ten. -/
def powerOfTen (n : Nat) : Binary64 := (Binary64.ofDecimal? false 1 n).getD (.zero false)

/-- A double times a power of ten, rounded at each step. Powers beyond the greatest one take
two divisions; after that nothing is left of a 64-bit significand. -/
def scale (x : Binary64) (exponent : Int) : Option Binary64 :=
  let size := exponent.natAbs
  if x.isZero then some x
  else if 0 ≤ exponent then if size ≤ 308 then x.mul? (powerOfTen size) else none
  else if size ≤ 308 then x.div? (powerOfTen size)
  else if size ≤ 616 then (x.div? (powerOfTen 308)).bind (·.div? (powerOfTen (size - 308)))
  else some (.zero false)

/-- The double of a literal; `rest` is what follows its last character. -/
def floatOf (negative : Bool) (significand : Nat) (exponent : Int) (rest : List Char) : Step Number :=
  match (Binary64.ofInt? significand).bind (scale · exponent) with
  | some x => .ok (.float { x with negative }, rest)
  | none => failAt .numberOutOfRange rest

/-- Exponents and significands are kept in words of 32 and 64 bits. -/
def greatestExponent : Nat := 2147483647
def greatestWord : Nat := 18446744073709551615

/-- The exponent after its letter. -/
def exponentPart (negative : Bool) (significand : Nat) (exponent : Int) (cs : List Char) :
    Step Number :=
  let (down, cs) := match cs with
    | '+' :: rest => (false, rest)
    | '-' :: rest => (true, rest)
    | _ => (false, cs)
  match cs with
  | [] => failAt .endInValue []
  | c :: rest =>
    if Decimal.isDigit c then
      let ds := cs.takeWhile Decimal.isDigit
      let after := cs.dropWhile Decimal.isDigit
      let (e, taken) := absorb greatestExponent 0 ds
      if taken < ds.length then
        if significand ≠ 0 ∧ ¬ down then failAt .numberOutOfRange (cs.drop (taken + 1))
        else .ok (.float (.zero negative), after)
      else
        let total : Int := if down then exponent - e else exponent + e
        floatOf negative significand (max (-greatestExponent - 1) (min greatestExponent total)) after
    else failAfter .invalidNumber (c :: rest)

/-- What may follow the digits in front of the point. -/
def fractionPart (negative : Bool) (significand : Nat) (exponent : Int) (cs : List Char) :
    Step Number :=
  let ds := cs.takeWhile Decimal.isDigit
  let after := cs.dropWhile Decimal.isDigit
  if ds = [] then
    if cs = [] then failAt .endInValue [] else failAfter .invalidNumber cs
  else
    let (significand, taken) := absorb greatestWord significand ds
    let exponent := exponent - taken
    match after with
    | 'e' :: rest | 'E' :: rest => exponentPart negative significand exponent rest
    | _ => floatOf negative significand exponent after

/-- A number after its sign. Without a point or exponent it is a whole number if that fits. -/
def numberBody (negative : Bool) (cs : List Char) : Step Number :=
  match cs with
  | [] => failAt .endInValue []
  | c :: rest =>
    if ¬ Decimal.isDigit c then failAfter .invalidNumber cs
    else if c = '0' ∧ (rest.headD ' ' |> Decimal.isDigit) then failAfter .invalidNumber rest
    else
      let ds := cs.takeWhile Decimal.isDigit
      let after := cs.dropWhile Decimal.isDigit
      let (significand, taken) := absorb greatestWord 0 ds
      let dropped : Int := (ds.length : Int) - taken
      match after with
      | '.' :: rest => fractionPart negative significand dropped rest
      | 'e' :: rest | 'E' :: rest => exponentPart negative significand dropped rest
      | _ =>
        let i : Int := if negative then -significand else significand
        if h : dropped = 0 ∧ (significand ≠ 0 ∨ ¬ negative) ∧ FitsWord i then
          .ok (.integer i h.2.2, after)
        else floatOf negative significand dropped after

/-- Items up to the closing bracket; `first` before any item was read. -/
def itemsFrom (item : List Char → Step Json) : Nat → Bool → List Json → List Char → Step Json
  | 0, _, _, _ => failAt .endInList []
  | budget + 1, first, read, cs =>
    match skipBlanks cs with
    | [] => failAt .endInList []
    | ']' :: rest => .ok (.array read.reverse, rest)
    | c :: rest =>
      let next (cs : List Char) : Step Json :=
        andThen (item cs) fun v rest => itemsFrom item budget false (v :: read) rest
      if first then next (c :: rest)
      else if c = ',' then
        match skipBlanks rest with
        | [] => failAt .endInValue []
        | ']' :: rest => failAfter .trailingComma (']' :: rest)
        | cs => next cs
      else failAfter .expectedCommaOrBracket (c :: rest)

/-- A name, a colon and a value, from the opening quote on. -/
def member (item : List Char → Step Json) (cs : List Char) : Step (String × Json) :=
  match cs with
  | '"' :: rest =>
    andThen (stringBody rest.length [] rest) fun name rest =>
      match skipBlanks rest with
      | [] => failAt .endInObject []
      | ':' :: rest => andThen (item rest) fun v rest => .ok ((name, v), rest)
      | rest => failAfter .expectedColon rest
  | _ => failAfter .keyNotString cs

/-- Members up to the closing brace; a repeated name keeps its place and takes the later value. -/
def membersFrom (item : List Char → Step Json) :
    Nat → Bool → List (String × Json) → List Char → Step Json
  | 0, _, _, _ => failAt .endInObject []
  | budget + 1, first, read, cs =>
    match skipBlanks cs with
    | [] => failAt .endInObject []
    | '}' :: rest => .ok (.object read, rest)
    | c :: rest =>
      let next (cs : List Char) : Step Json :=
        andThen (member item cs) fun m rest =>
          membersFrom item budget false (insert m.1 m.2 read) rest
      if first then next (c :: rest)
      else if c = ',' then
        match skipBlanks rest with
        | [] => failAt .endInValue []
        | '}' :: rest => failAfter .trailingComma ('}' :: rest)
        | cs => next cs
      else failAfter .expectedCommaOrBrace (c :: rest)

/-- A value in which at most `depth` containers are nested. -/
def value (depth : Nat) (cs : List Char) : Step Json :=
  match skipBlanks cs with
  | [] => failAt .endInValue []
  | c :: rest =>
    if c = 'n' then word .null ['u', 'l', 'l'] rest
    else if c = 't' then word (.bool true) ['r', 'u', 'e'] rest
    else if c = 'f' then word (.bool false) ['a', 'l', 's', 'e'] rest
    else if c = '"' then
      andThen (stringBody rest.length [] rest) fun s rest => .ok (.string s, rest)
    else if c = '[' then
      match depth with
      | 0 => failAfter .recursionLimit (c :: rest)
      | depth + 1 => itemsFrom (value depth) (rest.length + 1) true [] rest
    else if c = '{' then
      match depth with
      | 0 => failAfter .recursionLimit (c :: rest)
      | depth + 1 => membersFrom (value depth) (rest.length + 1) true [] rest
    else if c = '-' then andThen (numberBody true rest) fun n rest => .ok (.number n, rest)
    else if Decimal.isDigit c then
      andThen (numberBody false (c :: rest)) fun n rest => .ok (.number n, rest)
    else failAfter .expectedValue (c :: rest)

/-- The nesting that a text may have. -/
def depthLimit : Nat := 127

/-- A whole text: one value and blanks. -/
def document (cs : List Char) : Except Failure Json :=
  match value depthLimit cs with
  | .error e => .error e
  | .ok (v, rest) =>
    match skipBlanks rest with
    | [] => .ok v
    | rest => failAfter .trailingCharacters rest

/-- The line of a byte of a text and its distance from the line's start, lines from one. -/
def place (cs : List Char) (offset : Nat) : Nat × Nat :=
  let step : Nat × Nat × Nat → Char → Nat × Nat × Nat := fun (pos, line, start) c =>
    let pos' := pos + c.utf8Size
    if pos < offset ∧ c = '\n' then (pos', line + 1, pos') else (pos', line, start)
  let (_, line, start) := cs.foldl step (0, 1, 0)
  (line, offset - start)

/-- Why a text is not JSON, and where. -/
structure ReadError where
  fault : Fault
  line : Nat
  column : Nat
  deriving DecidableEq

def ReadError.message (e : ReadError) : String :=
  e.fault.message ++ " at line " ++ Decimal.text e.line ++ " column " ++ Decimal.text e.column

def read (text : String) : Except ReadError Json :=
  match document text.toList with
  | .ok v => .ok v
  | .error f =>
    let (line, column) := place text.toList (bytes text.toList - f.ahead)
    .error ⟨f.fault, line, column⟩

end Json
end ApiReview
