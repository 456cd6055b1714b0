import ApiReview.Decimal.Digits
import ApiReview.Yaml.Token.Basic

/-!
Scalars as they are written: plain, quoted, and in blocks. Line breaks inside the first two
are folded; a block is folded or kept by its indicator.
-/
namespace ApiReview.Yaml

/-- Blanks and line breaks between the words of a scalar. -/
inductive Gap where
  | blanks (cs : List Char)
  | breaks (first more : List Char)

namespace Gap

/-- What a gap contributes: one break is a space, of several the first is dropped. -/
def folded : Gap → List Char
  | .blanks cs => cs
  | .breaks first more =>
    if first.head? = some '\n' then if more.isEmpty then [' '] else more else first ++ more

def hasBreak : Gap → Bool
  | .blanks _ => false
  | .breaks _ _ => true

/-- Adds a line break; blanks before the first one are dropped. -/
def addBreak (gap : Gap) (cs : List Char) : Gap :=
  match gap with
  | .blanks _ => .breaks cs []
  | .breaks first more => .breaks first (more ++ cs)

/-- Adds a blank; after a line break blanks do not count. -/
def addBlank (gap : Gap) (c : Char) : Gap :=
  match gap with
  | .blanks cs => .blanks (cs ++ [c])
  | .breaks first more => .breaks first more

end Gap

/-- Reads blanks and line breaks. A tab left of `indent` on a later line is refused. -/
def readGap (indent : Int) (began : Mark) :
    Nat → Gap → Cursor → Except SyntaxError (Gap × Cursor)
  | 0, gap, c => .ok (gap, c)
  | budget + 1, gap, c =>
    match c.peek? with
    | none => .ok (gap, c)
    | some x =>
      if isBlank x then
        if gap.hasBreak && (c.mark.column : Int) < indent && isTab x then
          failIn c .tabBelowIndentation .plainScalar began
        else readGap indent began budget (gap.addBlank x) c.next
      else if isBreak x then
        let (line, c) := c.nextLine
        readGap indent began budget (gap.addBreak line) c
      else .ok (gap, c)

def isFlowIndicator (c : Char) : Bool :=
  c = ',' || c = '[' || c = ']' || c = '{' || c = '}'

/-- The characters of a plain scalar up to a gap or its end; `read` holds those before in reverse. -/
def plainWord (flow : Bool) (began : Mark) :
    Nat → List Char → Cursor → Except SyntaxError (List Char × Cursor)
  | 0, read, c => .ok (read, c)
  | budget + 1, read, c =>
    match c.peek? with
    | none => .ok (read, c)
    | some x =>
      if isBlank x || isBreak x then .ok (read, c)
      else if flow && x = ':' && c.sees (fun y => isFlowIndicator y || y = '?') 1 then
        failIn c .unexpectedColon .plainScalar began
      else if (x = ':' && c.atGap 1) || (flow && isFlowIndicator x) then .ok (read, c)
      else plainWord flow began budget (x :: read) c.next

/-- A plain scalar so far: its text in reverse, the gap after it, and where the text ends. -/
structure PlainScalar where
  text : List Char
  gap : Gap
  stop : Mark
  cursor : Cursor

/-- Words of a plain scalar with gaps between them. -/
def plainWords (flow : Bool) (indent : Int) (began : Mark) :
    Nat → PlainScalar → Except SyntaxError PlainScalar
  | 0, s => .ok s
  | budget + 1, s => do
    let c := s.cursor
    if c.atDocumentIndicator || c.is '#' then return s
    let joined := (s.gap.folded).reverse ++ s.text
    let (text, after) ← plainWord flow began c.rest.length joined c
    let s : PlainScalar :=
      if after.mark.index = c.mark.index then s else ⟨text, .blanks [], after.mark, after⟩
    if !(after.sees fun x => isBlank x || isBreak x) then return s
    let (gap, c) ← readGap indent began after.rest.length s.gap after
    let s := { s with gap, cursor := c }
    if !flow && (c.mark.column : Int) < indent then return s
    plainWords flow indent began budget s

/-- A plain scalar, and whether a line break follows it. -/
def readPlain (flow : Bool) (indent : Int) (c : Cursor) :
    Except SyntaxError (Token × Bool × Cursor) := do
  let s ← plainWords flow (indent + 1) c.mark (c.rest.length + 1) ⟨[], .blanks [], c.mark, c⟩
  let token := ⟨.scalar (String.ofList s.text.reverse) .plain, c.mark, s.stop⟩
  return (token, s.gap.hasBreak, s.cursor)

/-- The character of a one-letter escape. -/
def simpleEscape? : Char → Option Char
  | '0' => some '\x00'
  | 'a' => some '\x07'
  | 'b' => some '\x08'
  | 't' | '\t' => some '\t'
  | 'n' => some '\n'
  | 'v' => some '\x0b'
  | 'f' => some '\x0c'
  | 'r' => some '\r'
  | 'e' => some '\x1b'
  | ' ' => some ' '
  | '"' => some '"'
  | '/' => some '/'
  | '\\' => some '\\'
  | 'N' => some '\u0085'
  | '_' => some '\u00a0'
  | 'L' => some '\u2028'
  | 'P' => some '\u2029'
  | _ => none

/-- How many hexadecimal digits an escape has. -/
def escapeLength? : Char → Option Nat
  | 'x' => some 2
  | 'u' => some 4
  | 'U' => some 8
  | _ => none

/-- The number that so many hexadecimal digits denote. -/
def hexNumber (began : Mark) (c : Cursor) : Nat → Nat → Except SyntaxError Nat
  | 0, _ => .ok 0
  | n + 1, ahead => do
    let some digit := (c.peek? ahead).bind Text.hexValue?
      | failIn c .expectedHex .quotedEscape began
    return digit * twoTo (4 * n) + (← hexNumber began c n (ahead + 1))

/-- An escape in a double-quoted scalar, from its backslash on. -/
def readEscape (began : Mark) (c : Cursor) : Except SyntaxError (Char × Cursor) := do
  let letter := (c.peek? 1).getD '\x00'
  if let some x := simpleEscape? letter then return (x, c.skip 2)
  let some length := escapeLength? letter | failIn c .unknownEscape .quotedEscape began
  let c := c.skip 2
  let code ← hexNumber began c length 0
  if (0xD800 ≤ code && code ≤ 0xDFFF) || 0x10FFFF < code then
    failIn c .invalidEscapeCode .quotedEscape began
  else return (Char.ofNat code, c.skip length)

/-- The characters of a quoted scalar up to a gap or the closing quote, in reverse; and
whether an escaped line break ended them. -/
def quotedWord (single : Bool) (began : Mark) :
    Nat → List Char → Cursor → Except SyntaxError (List Char × Bool × Cursor)
  | 0, read, c => .ok (read, false, c)
  | budget + 1, read, c =>
    match c.peek? with
    | none => .ok (read, false, c)
    | some x =>
      if isBlank x || isBreak x then .ok (read, false, c)
      else if single && x = '\'' && c.is '\'' 1 then
        quotedWord single began budget ('\'' :: read) (c.skip 2)
      else if x = (if single then '\'' else '"') then .ok (read, false, c)
      else if !single && x = '\\' && c.sees isBreak 1 then .ok (read, true, c.next.skipLine)
      else if !single && x = '\\' then do
        let (y, c) ← readEscape began c
        quotedWord single began budget (y :: read) c
      else quotedWord single began budget (x :: read) c.next

/-- The inside of a quoted scalar, in reverse, up to its closing quote. -/
def quotedWords (single : Bool) (began : Mark) :
    Nat → List Char → Cursor → Except SyntaxError (List Char × Cursor)
  | 0, _, c => failIn c .endOfStream .quotedScalar began
  | budget + 1, read, c => do
    if c.atDocumentIndicator then failIn c .documentIndicator .quotedScalar began
    else if c.atEnd then failIn c .endOfStream .quotedScalar began
    else
      let (read, broken, c) ← quotedWord single began (c.rest.length + 1) read c
      if c.is (if single then '\'' else '"') then return (read, c)
      let (gap, c) ← readGap (-1) began c.rest.length
        (if broken then .breaks [] [] else .blanks []) c
      quotedWords single began budget (gap.folded.reverse ++ read) c

def readQuoted (single : Bool) (c : Cursor) : Except SyntaxError (Token × Cursor) := do
  let (read, after) ← quotedWords single c.mark (c.rest.length + 1) [] c.next
  let after := after.next
  let style := if single then ScalarStyle.singleQuoted else .doubleQuoted
  return (⟨.scalar (String.ofList read.reverse) style, c.mark, after.mark⟩, after)

inductive Chomping where
  | strip
  | clip
  | keep
  deriving DecidableEq

/-- A digit that gives the indentation of a block; zero is refused. -/
def indentationDigit (began : Mark) (c : Cursor) : Except SyntaxError (Nat × Cursor) :=
  match c.peek? with
  | none => .ok (0, c)
  | some x =>
    if x = '0' then failIn c .zeroIndentation .blockScalar began
    else if Decimal.isDigit x then .ok (Decimal.digitValue x, c.next)
    else .ok (0, c)

def chompingSign (c : Cursor) : Chomping × Cursor :=
  if c.is '+' then (.keep, c.next) else if c.is '-' then (.strip, c.next) else (.clip, c)

/-- The indicators after `|` or `>`, in either order. -/
def blockHeader (began : Mark) (c : Cursor) : Except SyntaxError (Chomping × Nat × Cursor) := do
  let (chomping, c) := chompingSign c
  let (increment, c) ← indentationDigit began c
  if chomping = .clip && increment ≠ 0 then
    let (chomping, c) := chompingSign c
    return (chomping, increment, c)
  return (chomping, increment, c)

/-- Indentation and empty lines before a line of a block. -/
structure BlockLead where
  breaks : List Char
  /-- The widest indentation seen. -/
  widest : Nat
  stop : Mark
  cursor : Cursor

/-- Reads indentation up to `indent`, or all of it while that is not known, and empty lines. -/
def blockLead (indent : Nat) (began : Mark) :
    Nat → BlockLead → Except SyntaxError BlockLead
  | 0, s => .ok s
  | budget + 1, s =>
    let c := s.cursor
    let spaces := (c.takeWhile isSpace).1.length
    let c := c.skip (if indent = 0 then spaces else min spaces (indent - c.mark.column))
    let widest := max s.widest c.mark.column
    if (indent = 0 || c.mark.column < indent) && c.sees isTab then
      failIn c .tabForIndentation .blockScalar began
    else if c.sees isBreak then
      let (line, c) := c.nextLine
      blockLead indent began budget ⟨s.breaks ++ line, widest, c.mark, c⟩
    else .ok { s with widest, cursor := c }

/-- A block scalar so far. -/
structure BlockScalar where
  /-- In reverse. -/
  text : List Char
  /-- The break after the last line. -/
  lineBreak : List Char
  /-- The breaks of empty lines after that. -/
  emptyLines : List Char
  /-- Whether the last line began with a blank. -/
  indented : Bool
  stop : Mark
  cursor : Cursor

/-- The lines of a block. Between two lines that begin without a blank a folded block has a
space for its one line break. -/
def blockLines (literal : Bool) (indent : Nat) (began : Mark) :
    Nat → BlockScalar → Except SyntaxError BlockScalar
  | 0, s => .ok s
  | budget + 1, s => do
    let c := s.cursor
    if c.mark.column ≠ indent || c.atEnd then return s
    let indented := c.sees isBlank
    let joint :=
      if !literal && s.lineBreak.head? = some '\n' && !s.indented && !indented then
        if s.emptyLines.isEmpty then [' '] else s.emptyLines
      else s.lineBreak ++ s.emptyLines
    let (line, c) := c.takeWhile (!isBreak ·)
    let (lineBreak, c) := c.nextLine
    let lead ← blockLead indent began (c.rest.length + 1) ⟨[], 0, c.mark, c⟩
    blockLines literal indent began budget
      { text := line.reverse ++ joint.reverse ++ s.text
        lineBreak, emptyLines := lead.breaks, indented, stop := lead.stop, cursor := lead.cursor }

/-- A block scalar under a parent's indentation, from its indicator on. -/
def readBlock (literal : Bool) (parent : Int) (c : Cursor) :
    Except SyntaxError (Token × Cursor) := do
  let began := c.mark
  let (chomping, increment, c) ← blockHeader began c.next
  let c := c.skipBlanksAndComment
  if !c.atBreak then failIn c .expectedCommentOrBreak .blockScalar began
  else
    let c := c.skipLine
    let given := if increment = 0 then 0
      else if 0 ≤ parent then parent.toNat + increment else increment
    let lead ← blockLead given began (c.rest.length + 1) ⟨[], 0, c.mark, c⟩
    let indent := if given ≠ 0 then given else max lead.widest (max (parent + 1).toNat 1)
    let s ← blockLines literal indent began (c.rest.length + 1)
      { text := [], lineBreak := [], emptyLines := lead.breaks, indented := false
        stop := lead.stop, cursor := lead.cursor }
    let tail := match chomping with
      | .strip => []
      | .clip => s.lineBreak
      | .keep => s.lineBreak ++ s.emptyLines
    let text := String.ofList (s.text.reverse ++ tail)
    let style := if literal then ScalarStyle.literal else .folded
    return (⟨.scalar text style, began, s.stop⟩, s.cursor)

end ApiReview.Yaml
