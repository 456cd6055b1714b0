import ApiReview.Text.Class
import ApiReview.Yaml.Error

/-!
A place in a text together with what is ahead of it, and the classes of characters that
tell tokens apart.
-/
namespace ApiReview.Yaml

def isSpace (c : Char) : Bool := c = ' '
def isTab (c : Char) : Bool := c = '\t'
def isBlank (c : Char) : Bool := c = ' ' || c = '\t'

/-- Line breaks: those of ASCII, next line, and the two separators. -/
def isBreak (c : Char) : Bool :=
  c = '\r' || c = '\n' || c = '\u0085' || c = '\u2028' || c = '\u2029'

/-- Letters and digits of ASCII, the underscore and the hyphen. -/
def isNameChar (c : Char) : Bool := c.isAlphanum || c = '_' || c = '-'

/-- Characters that may occur in a YAML text. -/
def isAllowed (c : Char) : Bool :=
  let n := c.toNat
  n = 0x09 || n = 0x0A || n = 0x0D || (0x20 ≤ n && n ≤ 0x7E) || n = 0x85 ||
    (0xA0 ≤ n && n ≤ 0xD7FF) || (0xE000 ≤ n && n ≤ 0xFFFD) || (0x10000 ≤ n && n ≤ 0x10FFFF)

structure Cursor where
  rest : List Char
  mark : Mark := {}

namespace Cursor

def peek? (c : Cursor) (ahead : Nat := 0) : Option Char := c.rest[ahead]?

/-- Whether a character of some class is ahead. -/
def sees (c : Cursor) (p : Char → Bool) (ahead : Nat := 0) : Bool := (c.peek? ahead).any p

def is (c : Cursor) (x : Char) (ahead : Nat := 0) : Bool := c.peek? ahead == some x

/-- Whether the text ends here. -/
def atEnd (c : Cursor) : Bool := c.rest.isEmpty

/-- Whether a line break or the end is ahead. -/
def atBreak (c : Cursor) (ahead : Nat := 0) : Bool := (c.peek? ahead).all isBreak

/-- Whether a blank, a line break or the end is ahead. -/
def atGap (c : Cursor) (ahead : Nat := 0) : Bool :=
  (c.peek? ahead).all fun x => isBlank x || isBreak x

/-- Past one character that is no line break. -/
def next (c : Cursor) : Cursor :=
  match c.rest with
  | [] => c
  | _ :: rest => ⟨rest, { c.mark with index := c.mark.index + 1, column := c.mark.column + 1 }⟩

def skip : Nat → Cursor → Cursor
  | 0, c => c
  | n + 1, c => skip n c.next

/-- Past one line break, and the character it stands for. Carriage return and line feed
are one break; the two separators stay as they are. -/
def nextLine (c : Cursor) : List Char × Cursor :=
  let mark (n : Nat) : Mark := ⟨c.mark.index + n, c.mark.line + 1, 0⟩
  match c.rest with
  | '\r' :: '\n' :: rest => (['\n'], ⟨rest, mark 2⟩)
  | x :: rest =>
    if isBreak x then
      ([if x = '\u2028' || x = '\u2029' then x else '\n'], ⟨rest, mark 1⟩)
    else ([], c)
  | [] => ([], c)

def skipLine (c : Cursor) : Cursor := c.nextLine.2

/-- The run of a class ahead, and the cursor past it. The class has no line breaks. -/
def takeWhile (p : Char → Bool) (c : Cursor) : List Char × Cursor :=
  let run := c.rest.takeWhile p
  let n := run.length
  (run, ⟨c.rest.drop n,
    { c.mark with index := c.mark.index + n, column := c.mark.column + n }⟩)

def skipWhile (p : Char → Bool) (c : Cursor) : Cursor := (c.takeWhile p).2

/-- Past blanks and a comment. -/
def skipBlanksAndComment (c : Cursor) : Cursor :=
  let c := c.skipWhile isBlank
  if c.is '#' then c.skipWhile (!isBreak ·) else c

/-- Whether a line begins here with a document indicator. -/
def atDocumentIndicator (c : Cursor) : Bool :=
  c.mark.column = 0 && c.atGap 3 &&
    (c.rest.take 3 == ['-', '-', '-'] || c.rest.take 3 == ['.', '.', '.'])

end Cursor

/-- An error where the cursor stands, in something that began earlier. -/
def failIn {α : Type} (c : Cursor) (problem : Problem) (activity : Activity) (began : Mark) :
    Except SyntaxError α :=
  .error ⟨problem, .mark c.mark, some (activity, began)⟩

end ApiReview.Yaml
