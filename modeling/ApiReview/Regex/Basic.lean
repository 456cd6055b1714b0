import ApiReview.Text.Class
import ApiReview.Text.Case
import ApiReview.Text.Word

/-!
Regular expressions over characters, with groups, look-around and references to groups.
-/
namespace ApiReview

/-- A set of characters. -/
inductive CharSet where
  | ranges (list : Text.Ranges)
  | negated (s : CharSet)
  | union (a b : CharSet)
  | inter (a b : CharSet)
  /-- With every character all that differ from it only by case. -/
  | anyCase (s : CharSet)
  deriving DecidableEq

namespace CharSet

def contains : CharSet → Char → Bool
  | .ranges list, c => list.contains c
  | .negated s, c => !s.contains c
  | .union a b, c => a.contains c || b.contains c
  | .inter a b, c => a.contains c && b.contains c
  | .anyCase s, c => s.contains c || (Text.caseVariants c).any s.contains

def none : CharSet := .ranges #[]

def all : CharSet := .negated none

def singleton (c : Char) : CharSet := .ranges #[(c.toNat, c.toNat)]

def difference (a b : CharSet) : CharSet := .inter a (.negated b)

/-- What is in one of the two sets but not in both. -/
def symmetricDifference (a b : CharSet) : CharSet := .union (difference a b) (difference b a)

def digit : CharSet := .ranges #[(48, 57)]

def word : CharSet := .ranges #[(48, 57), (65, 90), (95, 95), (97, 122)]

def space : CharSet :=
  .ranges #[(9, 13), (32, 32), (160, 160), (8195, 8195), (8233, 8233), (65279, 65279)]

def hexDigit : CharSet := .ranges #[(48, 57), (65, 70), (97, 102)]

def unicodeDigit : CharSet := .ranges Text.digitRanges

def unicodeWord : CharSet := .ranges Text.wordRanges

def unicodeSpace : CharSet := .ranges Text.blankRanges

/-- All but the line feed. -/
def line : CharSet := .negated (singleton '\n')

end CharSet

/-- A condition on the place between two characters. -/
inductive Assertion where
  | textStart
  | textEnd
  | lineStart
  | lineEnd
  | wordBoundary
  | notWordBoundary
  | wordStart
  | wordEnd
  | afterNoWord
  | beforeNoWord
  deriving DecidableEq

/-- Whether the condition holds between two characters; there is none at the ends of the text. -/
def Assertion.holds (before after : Option Char) : Assertion → Bool :=
  let left := before.any Text.isWordChar
  let right := after.any Text.isWordChar
  fun
  | .textStart => before.isNone
  | .textEnd => after.isNone
  | .lineStart => before.all (· == '\n')
  | .lineEnd => after.all (· == '\n')
  | .wordBoundary => left != right
  | .notWordBoundary => left == right
  | .wordStart => !left && right
  | .wordEnd => left && !right
  | .afterNoWord => !left
  | .beforeNoWord => !right

inductive Regex where
  | empty
  | chars (set : CharSet)
  | seq (a b : Regex)
  /-- The first alternative is preferred. -/
  | alt (a b : Regex)
  /-- A greedy repetition prefers more rounds, another one fewer. -/
  | repeated (r : Regex) (least : Nat) (most : Option Nat) (greedy : Bool)
  | assertion (a : Assertion)
  | group (index : Nat) (r : Regex)
  /-- What matches `back` characters earlier, or does not. The place stays the same. -/
  | look (back : Nat) (negated : Bool) (r : Regex)
  /-- The text that a group matched last. -/
  | reference (index : Nat) (anyCase : Bool)
  /-- Only the preferred way to match. -/
  | atomic (r : Regex)
  deriving DecidableEq

namespace Regex

/-- One after the other; nothing beside the empty expression. -/
def andThen : Regex → Regex → Regex
  | .empty, b => b
  | a, .empty => a
  | a, b => .seq a b

/-- Without groups, where no reference asks for them. -/
def withoutGroups : Regex → Regex
  | .seq a b => .seq a.withoutGroups b.withoutGroups
  | .alt a b => .alt a.withoutGroups b.withoutGroups
  | .repeated r least most greedy => .repeated r.withoutGroups least most greedy
  | .group _ r => r.withoutGroups
  | .look back negated r => .look back negated r.withoutGroups
  | .atomic r => .atomic r.withoutGroups
  | r => r

/-- How many characters the expression matches, if it is always the same number. -/
def width? : Regex → Option Nat
  | .empty | .assertion _ | .look .. => some 0
  | .chars _ => some 1
  | .seq a b => do return (← a.width?) + (← b.width?)
  | .alt a b => do
    let n ← a.width?
    if b.width? = some n then some n else none
  | .repeated r least most _ => do
    if most = some least then return least * (← r.width?) else none
  | .group _ r | .atomic r => r.width?
  | .reference .. => none

/-- A look at what is just before a place. Alternatives may have different widths, but each has
one; an expression without a width is refused. -/
def lookBehind? (negated : Bool) (r : Regex) : Option Regex :=
  match r.width? with
  | some n => some (.look n negated r)
  | none => match r with
    | .alt a b => do
      let a ← lookBehind? negated a
      let b ← lookBehind? negated b
      return if negated then a.andThen b else .alt a b
    | _ => none

end Regex
end ApiReview
