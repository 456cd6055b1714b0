import ApiReview.Regex.Basic

/-!
Matching. An expression leads from a place in a text to a list of places, the preferred ones
first; a text matches if the list is not empty for some place to start from.
-/
namespace ApiReview.Regex

/-- A place in a text: what is before it, the nearest character first, what is after it, and
what the groups have matched so far. -/
structure Place where
  before : List Char
  after : List Char
  offset : Nat
  groups : List (Nat × List Char)
  deriving DecidableEq

namespace Place

def start (cs : List Char) : Place := ⟨[], cs, 0, []⟩

/-- The place behind the next character, if that one is as wanted. -/
def next? (p : Place) (wanted : Char → Bool) : Option Place :=
  match p.after with
  | [] => none
  | c :: rest => if wanted c then some ⟨c :: p.before, rest, p.offset + 1, p.groups⟩ else none

/-- The place `n` characters earlier. -/
def back? : Nat → Place → Option Place
  | 0, p => some p
  | n + 1, p => match p.before with
    | [] => none
    | c :: rest => back? n ⟨rest, c :: p.after, p.offset - 1, p.groups⟩

/-- Follows a text. -/
def through? (same : Char → Char → Bool) : List Char → Place → Option Place
  | [], p => some p
  | c :: cs, p => (p.next? (same c)).bind (through? same cs)

/-- Notes what a group matched that began at an earlier place. -/
def close (p : Place) (index : Nat) (opened : Place) : Place :=
  let matched := opened.after.take (p.offset - opened.offset)
  { p with groups := (index, matched) :: p.groups.filter (·.1 ≠ index) }

end Place

/-- The first of every set of equal places. -/
def distinct (places : List Place) : List Place :=
  (places.foldl (fun found p => if found.contains p then found else p :: found) []).reverse

/-- Takes a step exactly `n` times. -/
def times (step : Place → List Place) : Nat → List Place → List Place
  | 0, places => places
  | n + 1, places =>
    if places.isEmpty then [] else times step n (distinct (places.flatMap step))

/-- Takes a step up to `n` times and adds the places on the way to those found, in the order in
which they are left. If the number of rounds is bounded a place counts again for every number
of rounds that is left, else it is looked at once. Rounds that match nothing are not taken. -/
def explore (step : Place → List Place) (bounded greedy : Bool) :
    Nat → Place → List (Nat × Place) → List (Nat × Place)
  | 0, p, found => if found.contains (0, p) then found else (0, p) :: found
  | n + 1, p, found =>
    let mark := (if bounded then n + 1 else 0, p)
    if found.contains mark then found else
      let deeper (found : List (Nat × Place)) :=
        ((step p).filter (p.offset < ·.offset)).foldl
          (fun found q => explore step bounded greedy n q found) found
      if greedy then mark :: deeper found else deeper (mark :: found)

/-- Takes a step up to `most` times, or as often as there are characters left. -/
def upTo (step : Place → List Place) (greedy : Bool) (most : Option Nat) (p : Place) :
    List Place :=
  let found := match most with
    | some n => explore step true greedy (min n (p.after.length + 1)) p []
    | none => explore step false greedy (p.after.length + 1) p []
  distinct (found.reverse.map (·.2))

def sameLetter (anyCase : Bool) (a b : Char) : Bool :=
  a == b || (anyCase && Text.foldCode a.toNat == Text.foldCode b.toNat)

/-- The places that an expression leads to. -/
def run : Regex → Place → List Place
  | .empty, p => [p]
  | .chars set, p => (p.next? set.contains).toList
  | .seq a b, p => distinct ((run a p).flatMap (run b))
  | .alt a b, p => distinct (run a p ++ run b p)
  | .repeated r least most greedy, p =>
    let extra := most.map (· - least)
    distinct ((times (run r) least [p]).flatMap (upTo (run r) greedy extra))
  | .assertion a, p => if a.holds p.before.head? p.after.head? then [p] else []
  | .group index r, p => distinct ((run r p).map (·.close index p))
  | .look back negated r, p =>
    match ((p.back? back).map (run r)).bind (·.head?), negated with
    | some q, false => [{ p with groups := q.groups }]
    | none, true => [p]
    | _, _ => []
  | .reference index anyCase, p =>
    ((p.groups.lookup index).bind fun cs => p.through? (sameLetter anyCase) cs).toList
  | .atomic r, p => (run r p).take 1

/-- Whether the expression matches a text from some place on. -/
def found (r : Regex) : List Char → Place → Bool
  | [], p => !(run r p).isEmpty
  | c :: rest, p => !(run r p).isEmpty || found r rest ⟨c :: p.before, rest, p.offset + 1, []⟩

/-- Whether a part of the text matches. -/
def isMatch (r : Regex) (text : String) : Bool :=
  let cs := text.toList
  found r cs (.start cs)

end ApiReview.Regex
