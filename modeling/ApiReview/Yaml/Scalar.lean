import ApiReview.Yaml.Token.Basic
import ApiReview.Decimal.Number
import ApiReview.Decimal.Shortest

/-!
What a plain scalar means: nothing, a truth value, a number, or its own text.
-/
namespace ApiReview.Yaml

/-- A number as in other documents, or a special value of doubles. -/
inductive Number where
  | finite (n : ApiReview.Number)
  | infinity (negative : Bool)
  | notANumber
  deriving DecidableEq

namespace Number

def floatLayout : Decimal.Layout := ⟨some (-4, 16), true, false⟩

def text : Number → String
  | .finite (.integer i _) => Decimal.signedText i
  | .finite (.float x) => floatLayout.text x
  | .infinity false => ".inf"
  | .infinity true => "-.inf"
  | .notANumber => ".nan"

/-- Equal as keys: the two zeros are one, and so is what is not a number. -/
def same : Number → Number → Bool
  | .finite (.integer a _), .finite (.integer b _) => a == b
  | .finite (.float a), .finite (.float b) => a.units == b.units
  | .infinity a, .infinity b => a == b
  | .notANumber, .notANumber => true
  | _, _ => false

end Number

inductive Resolved where
  | null
  | bool (b : Bool)
  | number (n : Number)
  /-- A whole number that needs 128 bits. -/
  | wide (value : Int)
  | string (s : String)

def isNull (s : String) : Bool := ["~", "null", "Null", "NULL"].contains s

def bool? (s : String) : Option Bool :=
  if ["true", "True", "TRUE"].contains s then some true
  else if ["false", "False", "FALSE"].contains s then some false
  else none

/-- The value of a digit in a radix up to sixteen. -/
def digit? (radix : Nat) (c : Char) : Option Nat := (Text.hexValue? c).filter (· < radix)

/-- The number of a nonempty run of digits. -/
def natOf? (radix : Nat) (cs : List Char) : Option Nat :=
  if cs.isEmpty then none
  else cs.foldlM (fun n c => (digit? radix c).map (n * radix + ·)) 0

/-- The radix that a marker announces, and the digits after it. -/
def radix? : List Char → Option (Nat × List Char)
  | '0' :: 'x' :: rest => some (16, rest)
  | '0' :: 'o' :: rest => some (8, rest)
  | '0' :: 'b' :: rest => some (2, rest)
  | _ => none

def dropPlus : List Char → List Char
  | '+' :: rest => rest
  | cs => cs

/-- Digits that begin with a needless zero are text. -/
def isZeroPadded (cs : List Char) : Bool :=
  match (match cs with | '+' :: rest | '-' :: rest => rest | _ => cs) with
  | '0' :: c :: rest => (c :: rest).all Decimal.isDigit
  | _ => false

/-- A whole number below a bound, maybe with a plus sign. -/
def unsigned? (bound : Nat) (s : String) : Option Nat :=
  let cs := dropPlus s.toList
  let n := match radix? cs with
    | some (radix, digits) => natOf? radix digits
    | none => if isZeroPadded s.toList then none else natOf? 10 cs
  n.filter (· < bound)

/-- A whole number after a minus sign, not below `-bound`. -/
def negative? (bound : Nat) (s : String) : Option Int :=
  match s.toList with
  | '-' :: cs =>
    let n := match radix? cs with
      | some (radix, digits) => natOf? radix digits
      | none => if isZeroPadded s.toList then none else natOf? 10 cs
    (n.filter (· ≤ bound)).map fun n => -(n : Int)
  | _ => none

/-- A finite decimal: digits with a point anywhere among them, and maybe an exponent. -/
def decimal? (negative : Bool) (cs : List Char) : Option Binary64 :=
  let whole := cs.takeWhile Decimal.isDigit
  let rest := cs.dropWhile Decimal.isDigit
  let (fraction, rest) := match rest with
    | '.' :: rest => (rest.takeWhile Decimal.isDigit, rest.dropWhile Decimal.isDigit)
    | _ => ([], rest)
  if whole.isEmpty && fraction.isEmpty then none
  else
    let exponent? : Option Int := match rest with
      | [] => some 0
      | e :: rest =>
        if e = 'e' ∨ e = 'E' then
          match rest with
          | '-' :: ds => (natOf? 10 ds).map fun n => -(n : Int)
          | '+' :: ds => (natOf? 10 ds).map fun n => (n : Int)
          | ds => (natOf? 10 ds).map fun n => (n : Int)
        else none
    exponent?.bind fun e =>
      Binary64.ofDecimal? negative (Decimal.value (whole ++ fraction)) (e - fraction.length)

/-- A double: special values are written with a point, finite ones must not be too large. -/
def float? (s : String) : Option Number :=
  let cs := s.toList
  let positive := dropPlus cs
  let signed := match positive with | '+' :: _ | '-' :: _ => true | _ => false
  if positive.length < cs.length && signed then none
  else if [".inf", ".Inf", ".INF"].contains (String.ofList positive) then some (.infinity false)
  else if ["-.inf", "-.Inf", "-.INF"].contains s then some (.infinity true)
  else if [".nan", ".NaN", ".NAN"].contains s then some .notANumber
  else match positive with
    | '-' :: rest => (decimal? true rest).map (.finite <| .float ·)
    | _ => (decimal? false positive).map (.finite <| .float ·)

/-- A whole number, in the smallest words that hold it. -/
def integer? (s : String) : Option Resolved :=
  let word? (i : Int) : Option Resolved :=
    if h : FitsWord i then some (.number (.finite (.integer i h))) else none
  ((unsigned? (twoTo 64) s).bind fun n => word? n) <|>
    ((negative? (twoTo 63) s).bind word?) <|>
    ((unsigned? (twoTo 128) s).map fun n => .wide n) <|>
    (negative? (twoTo 127) s).map .wide

/-- The meaning of a plain scalar without a tag. -/
def resolve (s : String) : Resolved :=
  if s.isEmpty || isNull s then .null
  else match bool? s with
    | some b => .bool b
    | none =>
      match integer? s with
      | some r => r
      | none =>
        match if isZeroPadded s.toList then none else float? s with
        | some n => .number n
        | none => .string s

end ApiReview.Yaml
