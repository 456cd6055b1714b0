import ApiReview.Json.Basic
import ApiReview.Decimal.Digits

/-!
Places in a JSON value. A pointer is a list of segments and compares by them; its text
form is that of RFC 6901. The text does not tell a name made of digits from a position,
so reading it for a document walks the document along.
-/
namespace ApiReview

/-- One step into a container. -/
inductive Segment where
  | key (name : String)
  | index (position : Nat)
  deriving DecidableEq

structure Pointer where
  segments : List Segment
  deriving DecidableEq

namespace Segment

/-- Names come before positions. -/
def compare : Segment → Segment → Ordering
  | .key a, .key b => Ord.compare a b
  | .key _, .index _ => .lt
  | .index _, .key _ => .gt
  | .index a, .index b => Ord.compare a b

/-- The segment as it is read, without escapes. -/
def shown : Segment → String
  | .key name => name
  | .index i => Decimal.text i

/-- A tilde and a slash are escaped by a tilde and a digit. -/
def escapeChar (c : Char) : List Char :=
  if c = '~' then ['~', '0'] else if c = '/' then ['~', '1'] else [c]

def chars : Segment → List Char
  | .key name => name.toList.flatMap escapeChar
  | .index i => Decimal.digits i

/-- Puts a character for every tilde that the digit follows. -/
def replaceEscape (digit into : Char) : List Char → List Char
  | [] => []
  | [c] => [c]
  | c :: d :: rest =>
    if c = '~' ∧ d = digit then into :: replaceEscape digit into rest
    else c :: replaceEscape digit into (d :: rest)

/-- All escaped slashes are put back first, then all tildes. -/
def unescape (cs : List Char) : List Char := replaceEscape '0' '~' (replaceEscape '1' '/' cs)

/-- A token as an array position: digits below `2 ^ 64`, a plus sign may precede them. -/
def position? (token : String) : Option Nat :=
  let ds := match token.toList with
    | '+' :: rest => rest
    | cs => cs
  if ds ≠ [] ∧ ds.all Decimal.isDigit ∧ Decimal.value ds < twoTo 64 then some (Decimal.value ds)
  else none

/-- The node one step below. -/
def step? : Json → Segment → Option Json
  | .object members, .key name => Json.lookup name members
  | .array items, .index i => items[i]?
  | _, _ => none

/-- The segment that a token means at a node: a position in an array if it reads as one. -/
def ofToken (node : Option Json) (token : String) : Segment :=
  match node with
  | some (.array _) => match position? token with
    | some i => .index i
    | none => .key token
  | _ => .key token

end Segment

namespace Pointer

def root : Pointer := ⟨[]⟩

def join (p : Pointer) (s : Segment) : Pointer := ⟨p.segments ++ [s]⟩

def key (p : Pointer) (name : String) : Pointer := p.join (.key name)

def index (p : Pointer) (i : Nat) : Pointer := p.join (.index i)

/-- A pointer to an object member, by the names that lead to it. -/
def ofKeys (names : List String) : Pointer := ⟨names.map .key⟩

def isRoot (p : Pointer) : Bool := p.segments.isEmpty

def chars (p : Pointer) : List Char := p.segments.flatMap fun s => '/' :: s.chars

def text (p : Pointer) : String := String.ofList p.chars

/-- The tokens of a pointer text: it is empty or starts with a slash. -/
def tokens? (text : String) : Option (List String) :=
  match text.toList with
  | [] => some []
  | '/' :: rest => some ((rest.splitOn '/').map fun raw => String.ofList (Segment.unescape raw))
  | _ => none

/-- Reads a pointer text, every token as a name. -/
def parse? (text : String) : Option Pointer := (tokens? text).map ofKeys

/-- Gives each token its meaning at the node reached so far; off the document all are names. -/
def typed (node : Option Json) : List String → List Segment
  | [] => []
  | token :: rest =>
    let segment := Segment.ofToken node token
    segment :: typed (node.bind (Segment.step? · segment)) rest

/-- Reads a pointer text for a document. -/
def parseAgainst? (text : String) (document : Json) : Option Pointer :=
  (tokens? text).map fun tokens => ⟨typed (some document) tokens⟩

/-- The node that a pointer leads to. -/
def resolve? (p : Pointer) (document : Json) : Option Json :=
  p.segments.foldlM Segment.step? document

/-- Segment lists in dictionary order. -/
def compareSegments : List Segment → List Segment → Ordering
  | [], [] => .eq
  | [], _ :: _ => .lt
  | _ :: _, [] => .gt
  | a :: as, b :: bs => (a.compare b).then (compareSegments as bs)

def compare (p q : Pointer) : Ordering := compareSegments p.segments q.segments

end Pointer
end ApiReview
