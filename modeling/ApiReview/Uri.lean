import ApiReview.Decimal.Digits
import ApiReview.Text.Class

/-!
Identifiers of resources: their parts, and how a reference is resolved against a base.
-/
namespace ApiReview

/-- The parts of an identifier or of a reference to one. Absent parts are told from empty ones. -/
structure Uri where
  scheme : Option String := none
  authority : Option String := none
  path : String := ""
  query : Option String := none
  fragment : Option String := none
  deriving DecidableEq

/-- Why a text is no reference, and the byte at which that shows. -/
inductive UriFault where
  | character (index : Nat)
  | octet (index : Nat)
  deriving DecidableEq

def UriFault.message : UriFault → String
  | .character i => "unexpected character at index " ++ Decimal.text i
  | .octet i => "invalid percent-encoded octet at index " ++ Decimal.text i

namespace Uri

def isHex (c : Char) : Bool := (Text.hexValue? c).isSome

def isUnreserved (c : Char) : Bool :=
  c.isAlphanum || c = '-' || c = '.' || c = '_' || c = '~'

def isSubDelimiter (c : Char) : Bool := "!$&'()*+,;=".toList.contains c

def isAuthorityChar (c : Char) : Bool :=
  isUnreserved c || isSubDelimiter c || c = ':' || c = '@' || c = '[' || c = ']'

def isPathChar (c : Char) : Bool :=
  isUnreserved c || isSubDelimiter c || c = ':' || c = '@' || c = '/'

def isQueryChar (c : Char) : Bool := isPathChar c || c = '?'

/-- The first fault in a part of a text that starts at a byte. -/
def faultIn (allowed : Char → Bool) : Nat → List Char → Option UriFault
  | _, [] => none
  | i, '%' :: a :: b :: rest =>
    if isHex a && isHex b then faultIn allowed (i + 3) rest else some (.octet i)
  | i, '%' :: _ => some (.octet i)
  | i, c :: rest => if allowed c then faultIn allowed (i + 1) rest else some (.character i)

def isSchemeChar (c : Char) : Bool := c.isAlphanum || c = '+' || c = '-' || c = '.'

/-- The scheme in front of a colon, and what follows it. -/
def splitScheme (cs : List Char) : Option (List Char) × List Char :=
  match cs.span isSchemeChar with
  | (c :: name, ':' :: rest) => if c.isAlpha then (some (c :: name), rest) else (none, cs)
  | _ => (none, cs)

/-- What stands up to a mark, and behind it if the mark is there. -/
def splitAt (mark : Char) (cs : List Char) : List Char × Option (List Char) :=
  match cs.span (· ≠ mark) with
  | (front, []) => (front, none)
  | (front, _ :: rest) => (front, some rest)

/-- The authority behind two slashes, and the path. -/
def splitAuthority : List Char → Option (List Char) × List Char
  | '/' :: '/' :: rest => let (a, path) := rest.span (· ≠ '/'); (some a, path)
  | cs => (none, cs)

/-- Reads an identifier or a reference. -/
def parse (text : String) : Except UriFault Uri :=
  let cs := text.toList
  let (scheme, afterScheme) := splitScheme cs
  let (beforeFragment, fragment) := splitAt '#' afterScheme
  let (hierarchy, query) := splitAt '?' beforeFragment
  let (authority, path) := splitAuthority hierarchy
  let size (part : Option (List Char)) (marks : Nat) := part.elim 0 (·.length + marks)
  let pathAt := size scheme 1 + size authority 2
  let fault :=
    (authority.bind (faultIn isAuthorityChar (size scheme 1 + 2)) <|>
      faultIn isPathChar pathAt path <|>
      query.bind (faultIn isQueryChar (pathAt + path.length + 1)) <|>
      fragment.bind (faultIn isQueryChar (pathAt + path.length + size query 1 + 1)))
  match fault with
  | some f => .error f
  | none => .ok {
      scheme := scheme.map String.ofList
      authority := authority.map String.ofList
      path := String.ofList path
      query := query.map String.ofList
      fragment := fragment.map String.ofList }

def text (u : Uri) : String :=
  (u.scheme.map (· ++ ":")).getD "" ++ (u.authority.map ("//" ++ ·)).getD "" ++ u.path ++
    (u.query.map ("?" ++ ·)).getD "" ++ (u.fragment.map ("#" ++ ·)).getD ""

/-- Follows single and double dots. What has been kept stands in reverse; a dot at the end
leaves a slash there. -/
def withoutDots : List (List Char) → List (List Char) → List (List Char)
  | kept, [] => kept
  | kept, ['.'] :: [] => [] :: kept
  | kept, ['.', '.'] :: [] => [] :: kept.tail
  | kept, ['.'] :: rest => withoutDots kept rest
  | kept, ['.', '.'] :: rest => withoutDots kept.tail rest
  | kept, s :: rest => withoutDots (s :: kept) rest

/-- A path without segments that are dots. -/
def plainPath (path : String) : String :=
  let joined (pieces : List (List Char)) := String.ofList (List.intercalate ['/'] pieces)
  match path.toList.splitOn '/' with
  | [] :: rest => "/" ++ joined (withoutDots [] rest).reverse
  | pieces => joined (withoutDots [] pieces).reverse

/-- The base's path up to its last slash, with another path behind it. -/
def mergedPath (base : Uri) (path : String) : String :=
  if base.authority.isSome && base.path.isEmpty then "/" ++ path
  else
    let front := (base.path.toList.reverse.dropWhile (· ≠ '/')).reverse
    String.ofList front ++ path

/-- The identifier that a reference means at a base. -/
def resolve (base reference : Uri) : Uri :=
  if reference.scheme.isSome then { reference with path := plainPath reference.path }
  else if reference.authority.isSome then
    { reference with scheme := base.scheme, path := plainPath reference.path }
  else
    let front := { reference with scheme := base.scheme, authority := base.authority }
    if reference.path.isEmpty then
      { front with path := base.path, query := reference.query <|> base.query }
    else if reference.path.startsWith "/" then { front with path := plainPath reference.path }
    else { front with path := plainPath (mergedPath base reference.path) }

/-- Scheme and authority are compared without regard to case. -/
def lowered (u : Uri) : Uri :=
  { u with scheme := u.scheme.map String.toLower, authority := u.authority.map String.toLower }

def withoutFragment (u : Uri) : Uri := { u with fragment := none }

end Uri
end ApiReview
