import ApiReview.Regex.Property
import ApiReview.Decimal.Digits

/-!
The part of the pattern grammar that single characters and bracketed classes share:
escapes, ranges and set operations.
-/
namespace ApiReview.Regex

/-- Why a pattern was not read. -/
inductive Refusal where
  | malformed
  /-- It looks around or refers to a group, which the plain grammar does not have. -/
  | extended
  deriving DecidableEq

/-- How a pattern is read. The plain grammar has narrow classes and fewer escapes. -/
structure Grammar where
  extended : Bool

/-- Reading takes characters from the front of a text. -/
abbrev Reading := StateT (List Char) (Except Refusal)

namespace Reading

def refuse {α : Type} : Reading α := throw .malformed

def peek : Reading (Option Char) := return (← get).head?

def next : Reading Char := do
  match ← get with
  | [] => refuse
  | c :: rest => set rest; return c

/-- Takes the characters of a text if they come next. -/
def accept (wanted : String) : Reading Bool := do
  let cs ← get
  if wanted.toList.isPrefixOf cs then set (cs.drop wanted.length); return true
  return false

def expect (wanted : String) : Reading Unit := do
  unless ← accept wanted do refuse

/-- Takes all characters of a kind. -/
def takeWhile (p : Char → Bool) : Reading (List Char) := do
  let cs ← get
  set (cs.dropWhile p)
  return cs.takeWhile p

end Reading

open Reading

/-- The character of a code point, which is refused if it is none. -/
def charOfCode (n : Nat) : Reading Char :=
  if n.isValidChar then return Char.ofNat n else refuse

/-- A character by its code: so many hexadecimal digits, or any number of them in braces. -/
def hexEscape (digits : Nat) : Reading Char := do
  let braced ← accept "\x7b"
  let cs ← if braced then takeWhile (· ≠ '}') else do
    let cs := (← get).take digits
    set ((← get).drop digits)
    if cs.length < digits then refuse
    pure cs
  if braced then expect "\x7d"
  if cs.isEmpty || 8 < cs.length then refuse
  match cs.mapM Text.hexValue? with
  | some values => charOfCode (values.foldl (16 * · + ·) 0)
  | none => refuse

/-- What an escape stands for. -/
inductive Escape where
  | char (c : Char)
  | set (s : CharSet)
  | assertion (a : Assertion)
  | regex (r : Regex)

def negatedIf (negated : Bool) (s : CharSet) : CharSet := if negated then .negated s else s

/-- The class of an escaped letter: a digit, a word character, a space; others by the capital. -/
def Grammar.letterClass? (g : Grammar) : Char → Option CharSet
  | 'd' => some (if g.extended then .unicodeDigit else .digit)
  | 'D' => some (.negated (if g.extended then .unicodeDigit else .digit))
  | 'w' => some (if g.extended then .unicodeWord else .word)
  | 'W' => some (.negated (if g.extended then .unicodeWord else .word))
  | 's' => some (if g.extended then .unicodeSpace else .space)
  | 'S' => some (.negated (if g.extended then .unicodeSpace else .space))
  | 'h' => if g.extended then some .hexDigit else none
  | 'H' => if g.extended then some (.negated .hexDigit) else none
  | _ => none

/-- A control character by an escaped letter. -/
def Grammar.control? (g : Grammar) : Char → Option Char
  | 'f' => some '\x0c'
  | 'n' => some '\n'
  | 'r' => some '\r'
  | 't' => some '\t'
  | 'v' => some '\x0b'
  | 'a' => if g.extended then some '\x07' else none
  | 'e' => if g.extended then some '\x1b' else none
  | _ => none

def assertionOf? : Char → Option Assertion
  | 'A' => some .textStart
  | 'z' => some .textEnd
  | 'b' => some .wordBoundary
  | 'B' => some .notWordBoundary
  | '<' => some .wordStart
  | '>' => some .wordEnd
  | _ => none

/-- A word boundary may name its side in braces. -/
def boundarySide : Reading Assertion := do
  if ← accept "\x7bstart\x7d" then return .wordStart
  if ← accept "\x7bend\x7d" then return .wordEnd
  if ← accept "\x7bstart-half\x7d" then return .afterNoWord
  if ← accept "\x7bend-half\x7d" then return .beforeNoWord
  return .wordBoundary

/-- A class by name: a letter, or a text in braces that may have a value after an equals sign. -/
def propertyClass : Reading CharSet := do
  let named? ← if ← accept "\x7b" then
      let name ← takeWhile (· ≠ '}')
      expect "\x7d"
      pure (match name.span fun c => c ≠ '=' && c ≠ ':' with
        | (property, mark :: value) =>
          if mark = '=' && property.getLast? = some '!' then
            (CharSet.ofValue? property.dropLast value).map .negated
          else CharSet.ofValue? property value
        | (name, []) => CharSet.ofName? name)
    else
      pure (CharSet.ofName? [← next])
  match named? with
  | some s => return s
  | none => refuse

/-- Characters that stand for themselves when escaped: the ASCII ones but for letters and digits. -/
def isEscapable (c : Char) : Bool :=
  c.toNat < 128 && !c.isAlphanum && c ≠ '<' && c ≠ '>'

/-- An escape whose backslash has been taken. References to groups are read elsewhere. -/
def Grammar.escape (g : Grammar) : Reading Escape := do
  let c ← next
  if let some s := g.letterClass? c then return .set s
  if let some control := g.control? c then return .char control
  if c = 'p' then return .set (← propertyClass)
  if c = 'P' then return .set (.negated (← propertyClass))
  if c = 'b' then return .assertion (← boundarySide)
  if let some a := assertionOf? c then return .assertion a
  if c = 'x' then return .char (← hexEscape 2)
  if c = 'u' then return .char (← hexEscape 4)
  if c = 'U' then return .char (← hexEscape 8)
  if c = 'c' then
    let letter ← next
    if letter.isAlpha then return .char (Char.ofNat (letter.toNat % 32)) else refuse
  if Decimal.isDigit c then throw (if g.extended then .malformed else .extended)
  if g.extended && c = 'K' then return .regex .empty
  if g.extended && c = 'G' then return .assertion .textStart
  if g.extended && c = 'Z' then
    return .regex (.look 0 false
      (.seq (.repeated (.chars (.singleton '\n')) 0 none true) (.assertion .textEnd)))
  if isEscapable c || (g.extended && 128 ≤ c.toNat) then return .char c
  refuse

/-- The ASCII classes that have a name. -/
def namedClass? : String → Option CharSet
  | "alnum" => some (.ranges #[(48, 57), (65, 90), (97, 122)])
  | "alpha" => some (.ranges #[(65, 90), (97, 122)])
  | "ascii" => some (.ranges #[(0, 127)])
  | "blank" => some (.ranges #[(9, 9), (32, 32)])
  | "cntrl" => some (.ranges #[(0, 31), (127, 127)])
  | "digit" => some .digit
  | "graph" => some (.ranges #[(33, 126)])
  | "lower" => some (.ranges #[(97, 122)])
  | "print" => some (.ranges #[(32, 126)])
  | "punct" => some (.ranges #[(33, 47), (58, 64), (91, 96), (123, 126)])
  | "space" => some (.ranges #[(9, 13), (32, 32)])
  | "upper" => some (.ranges #[(65, 90)])
  | "word" => some .word
  | "xdigit" => some .hexDigit
  | _ => none

/-- A named class, if one is written here. -/
def namedClass : Reading (Option CharSet) := do
  let start ← get
  if ← accept "[:" then
    let negated ← accept "^"
    let name ← takeWhile fun c => c ≠ ':' && c ≠ ']'
    if ← accept ":]" then
      if let some s := namedClass? (String.ofList name) then return some (negatedIf negated s)
  set start
  return none

/-- One character of a class, or a set of them. -/
def Grammar.classItem (g : Grammar) : Reading (Char ⊕ CharSet) := do
  if ← accept "\\" then
    match ← g.escape with
    | .char c => return .inl c
    | .set s => return .inr s
    | _ => refuse
  else return .inl (← next)

def leaf (anyCase : Bool) (s : CharSet) : CharSet := if anyCase then .anyCase s else s

def itemSet : Char ⊕ CharSet → CharSet
  | .inl c => .singleton c
  | .inr s => s

/-- A character, a set, or a range of characters. -/
def Grammar.classRange (g : Grammar) : Reading CharSet := do
  let low ← g.classItem
  match ← get with
  | '-' :: c :: rest =>
    if c = ']' || c = '-' then return itemSet low
    set (c :: rest)
    match low, ← g.classItem with
    | .inl a, .inl b => if a ≤ b then return .ranges #[(a.toNat, b.toNat)] else refuse
    | _, _ => refuse
  | _ => return itemSet low

/-- Operations between the parts of a class. -/
inductive SetOperation where
  | intersection
  | difference
  | symmetricDifference

def SetOperation.apply : SetOperation → CharSet → CharSet → CharSet
  | .intersection => .inter
  | .difference => .difference
  | .symmetricDifference => .symmetricDifference

def setOperation : Reading (Option SetOperation) := do
  if ← accept "&&" then return some .intersection
  if ← accept "--" then return some .difference
  if ← accept "~~" then return some .symmetricDifference
  return none

/-- What has been read of a class: the parts before the last operation and those since then. -/
structure ClassParts where
  left : Option (SetOperation × CharSet) := none
  items : CharSet := .none

def ClassParts.join (p : ClassParts) : CharSet :=
  match p.left with
  | some (op, s) => op.apply s p.items
  | none => p.items

/-- A closing bracket or dashes at the front of a class stand for themselves. -/
def leadingItems : Reading CharSet := do
  let dashes ← takeWhile (· = '-')
  if !dashes.isEmpty then return .singleton '-'
  if ← accept "]" then return .singleton ']'
  return .none

mutual

/-- A class whose opening bracket has been taken. -/
def Grammar.bracketed (g : Grammar) (anyCase : Bool) : Nat → Reading CharSet
  | 0 => refuse
  | n + 1 => do
    let negated ← accept "^"
    let items ← leadingItems
    return negatedIf negated (← classParts g anyCase n { items := leaf anyCase items })

def Grammar.classParts (g : Grammar) (anyCase : Bool) : Nat → ClassParts → Reading CharSet
  | 0, _ => refuse
  | n + 1, parts => do
    if let some s ← namedClass then
      return ← classParts g anyCase n { parts with items := .union parts.items (leaf anyCase s) }
    if ← accept "[" then
      let inner ← bracketed g anyCase n
      return ← classParts g anyCase n { parts with items := .union parts.items inner }
    if ← accept "]" then return parts.join
    if let some op ← setOperation then
      return ← classParts g anyCase n { left := some (op, parts.join), items := .none }
    let s ← g.classRange
    classParts g anyCase n { parts with items := .union parts.items (leaf anyCase s) }

end

end ApiReview.Regex
