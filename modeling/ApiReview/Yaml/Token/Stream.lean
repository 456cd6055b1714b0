import ApiReview.Yaml.Token.Scalar
import ApiReview.Yaml.Token.Property

/-!
The tokens of a text. Indentation gives tokens of its own; a colon turns what stands before it
into a key after the fact, so a place where a key may have begun is kept until that is settled.
-/
namespace ApiReview.Yaml

/-- A place where a key may have begun. -/
structure PossibleKey where
  /-- Nothing but a key may stand there. -/
  required : Bool
  /-- How many tokens come before it. -/
  position : Nat
  mark : Mark

structure Lexer where
  cursor : Cursor
  /-- The last one first. -/
  tokens : List Token := []
  count : Nat := 0
  indent : Int := -1
  outer : List Int := []
  /-- One place for each open flow collection and one for the block, the innermost first. -/
  keys : List (Option PossibleKey) := [none]
  keyAllowed : Bool := true

abbrev Lexing := Except SyntaxError Lexer

namespace Lexer

def inFlow (l : Lexer) : Bool := 1 < l.keys.length

def fail (l : Lexer) (problem : Problem) : Lexing := .error ⟨problem, .mark l.cursor.mark, none⟩

def failKey (l : Lexer) (k : PossibleKey) : Lexing :=
  failIn l.cursor .expectedColon .simpleKey k.mark

def emit (l : Lexer) (t : Token) : Lexer :=
  { l with tokens := t :: l.tokens, count := l.count + 1 }

/-- A token without text at the cursor. -/
def emitHere (l : Lexer) (kind : TokenKind) : Lexer := l.emit ⟨kind, l.cursor.mark, l.cursor.mark⟩

/-- Puts a token behind the first ones of the text. -/
def insertAt (l : Lexer) (position : Nat) (t : Token) : Lexer :=
  let later := l.count - position
  { l with
    tokens := l.tokens.take later ++ t :: l.tokens.drop later
    count := l.count + 1 }

/-- A token of so many characters. -/
def emitSkip (l : Lexer) (kind : TokenKind) (length : Nat) : Lexer :=
  let after := l.cursor.skip length
  { l.emit ⟨kind, l.cursor.mark, after.mark⟩ with cursor := after }

/-- Gives up the innermost possible key. -/
def dropKey (l : Lexer) : Lexing :=
  match l.keys with
  | some k :: rest => if k.required then l.failKey k else .ok { l with keys := none :: rest }
  | _ => .ok l

/-- Notes that a key may begin here. -/
def noteKey (l : Lexer) : Lexing :=
  if l.keyAllowed then do
    let required := !l.inFlow && l.indent == (l.cursor.mark.column : Int)
    let key : PossibleKey := ⟨required, l.count, l.cursor.mark⟩
    let l ← l.dropKey
    return { l with keys := some key :: l.keys.drop 1 }
  else .ok l

/-- A key is on one line and not longer than 1024 characters. -/
def isStale (m : Mark) (k : PossibleKey) : Bool :=
  k.mark.line < m.line || k.mark.index + 1024 < m.index

/-- Gives up the keys that cannot be keys any more, the outermost first. -/
def dropStale (l : Lexer) : Lexing :=
  let stale := l.keys.reverse.filterMap fun k => k.filter (isStale l.cursor.mark)
  match stale.find? (·.required) with
  | some k => l.failKey k
  | none => .ok { l with keys := l.keys.map fun k => k.filter (!isStale l.cursor.mark ·) }

/-- Opens a block collection at a column that is deeper than the current one. -/
def openBlock (l : Lexer) (mark : Mark) (kind : TokenKind) (position : Nat) : Lexer :=
  if l.inFlow || (mark.column : Int) ≤ l.indent then l
  else
    let l := { l with outer := l.indent :: l.outer, indent := mark.column }
    l.insertAt position ⟨kind, mark, mark⟩

/-- Closes the block collections that are deeper than a column. -/
def closeBlocks (column : Int) : List Int → Lexer → Lexer
  | [], l => l
  | outer :: rest, l =>
    if l.indent ≤ column then l
    else closeBlocks column rest { l.emitHere .blockEnd with indent := outer, outer := rest }

def unroll (l : Lexer) (column : Int) : Lexer :=
  if l.inFlow then l else closeBlocks column l.outer l

/-- Past blanks, comments and line breaks. Outside flow collections a new line allows a key;
where a key may begin, tabs are no blanks. -/
def skipToToken : Nat → Lexer → Lexer
  | 0, l => l
  | budget + 1, l =>
    let tabs := l.inFlow || !l.keyAllowed
    let c := l.cursor.skipWhile fun x => isSpace x || (tabs && isTab x)
    let c := if c.is '#' then c.skipWhile (!isBreak ·) else c
    if c.sees isBreak then
      skipToToken budget { l with cursor := c.skipLine, keyAllowed := l.keyAllowed || !l.inFlow }
    else { l with cursor := c }

def streamEnd (l : Lexer) : Lexing := do
  let c := l.cursor
  let mark := if c.mark.column = 0 then c.mark
    else { c.mark with column := 0, line := c.mark.line + 1 }
  let l := { l with cursor := { c with mark } }
  let l ← (l.unroll (-1)).dropKey
  return { l with keyAllowed := false }.emitHere .streamEnd

def directive (l : Lexer) : Lexing := do
  let l ← (l.unroll (-1)).dropKey
  let (t, cursor) ← readDirective l.cursor
  return { l.emit t with cursor, keyAllowed := false }

def documentIndicator (l : Lexer) (kind : TokenKind) : Lexing := do
  let l ← (l.unroll (-1)).dropKey
  return { l with keyAllowed := false }.emitSkip kind 3

def flowStart (l : Lexer) (kind : TokenKind) : Lexing := do
  let l ← l.noteKey
  return { l with keys := none :: l.keys, keyAllowed := true }.emitSkip kind 1

def flowEnd (l : Lexer) (kind : TokenKind) : Lexing := do
  let l ← l.dropKey
  let keys := if l.inFlow then l.keys.drop 1 else l.keys
  return { l with keys, keyAllowed := false }.emitSkip kind 1

def flowEntry (l : Lexer) : Lexing := do
  let l ← l.dropKey
  return { l with keyAllowed := true }.emitSkip .flowEntry 1

def blockEntry (l : Lexer) : Lexing := do
  if !l.inFlow && !l.keyAllowed then l.fail .blockEntryNotAllowed
  else
    let l ← (l.openBlock l.cursor.mark .blockSequenceStart l.count).dropKey
    return { l with keyAllowed := true }.emitSkip .blockEntry 1

def explicitKey (l : Lexer) : Lexing := do
  if !l.inFlow && !l.keyAllowed then l.fail .keyNotAllowed
  else
    let l ← (l.openBlock l.cursor.mark .blockMappingStart l.count).dropKey
    return { l with keyAllowed := !l.inFlow }.emitSkip .key 1

/-- A colon: what may have begun a key has done so. -/
def value (l : Lexer) : Lexing :=
  match l.keys with
  | some k :: rest =>
    let l := l.insertAt k.position ⟨.key, k.mark, k.mark⟩
    let l := l.openBlock k.mark .blockMappingStart k.position
    .ok ({ l with keys := none :: rest, keyAllowed := false }.emitSkip .value 1)
  | _ =>
    if !l.inFlow && !l.keyAllowed then l.fail .valueNotAllowed
    else
      let l := l.openBlock l.cursor.mark .blockMappingStart l.count
      .ok ({ l with keyAllowed := !l.inFlow }.emitSkip .value 1)

/-- A token that may begin a key, read by a function. -/
def property (l : Lexer) (read : Cursor → Except SyntaxError (Token × Cursor)) : Lexing := do
  let l ← l.noteKey
  let (t, cursor) ← read l.cursor
  return { l.emit t with cursor, keyAllowed := false }

def blockScalar (l : Lexer) (literal : Bool) : Lexing := do
  let l ← l.dropKey
  let (t, cursor) ← readBlock literal l.indent l.cursor
  return { l.emit t with cursor, keyAllowed := true }

def plainScalar (l : Lexer) : Lexing := do
  let l ← l.noteKey
  let (t, broken, cursor) ← readPlain l.inFlow l.indent l.cursor
  return { l.emit t with cursor, keyAllowed := broken }

/-- Characters that begin no plain scalar. -/
def isIndicator (c : Char) : Bool :=
  ['-', '?', ':', ',', '[', ']', '{', '}', '#', '&', '*', '!', '|', '>', '\'', '"', '%', '@',
    '`'].contains c

def startsPlain (l : Lexer) : Bool :=
  let c := l.cursor
  (!c.atGap && !c.sees isIndicator) || (c.is '-' && !c.sees isBlank 1) ||
    (!l.inFlow && (c.is '?' || c.is ':') && !c.atGap 1)

/-- The token that begins at the cursor. -/
def tokenHere (l : Lexer) : Lexing :=
  let c := l.cursor
  match c.peek? with
  | none => l.streamEnd
  | some x =>
    if c.mark.column = 0 && x = '%' then l.directive
    else if c.atDocumentIndicator then
      l.documentIndicator (if x = '-' then .documentStart else .documentEnd)
    else if x = '[' then l.flowStart .flowSequenceStart
    else if x = '{' then l.flowStart .flowMappingStart
    else if x = ']' then l.flowEnd .flowSequenceEnd
    else if x = '}' then l.flowEnd .flowMappingEnd
    else if x = ',' then l.flowEntry
    else if x = '-' && c.atGap 1 then l.blockEntry
    else if x = '?' && (l.inFlow || c.atGap 1) then l.explicitKey
    else if x = ':' && (l.inFlow || c.atGap 1) then l.value
    else if x = '*' then l.property (readAnchor true)
    else if x = '&' then l.property (readAnchor false)
    else if x = '!' then l.property (readTag l.inFlow)
    else if x = '|' && !l.inFlow then l.blockScalar true
    else if x = '>' && !l.inFlow then l.blockScalar false
    else if x = '\'' then l.property (readQuoted true)
    else if x = '"' then l.property (readQuoted false)
    else if l.startsPlain then l.plainScalar
    else failIn c .cannotStartToken .nextToken c.mark

/-- The next token, with those that its indentation gives. -/
def next (l : Lexer) : Lexing := do
  let l ← (l.skipToToken (l.cursor.rest.length + 1)).dropStale
  let l := l.unroll l.cursor.mark.column
  (← l.tokenHere).dropStale

/-- How many tokens are settled: those before the first place where a key may have begun. -/
def settled (l : Lexer) : Nat :=
  l.keys.foldl (fun n k => k.elim n fun k => min n k.position) l.count

/-- All tokens. When one cannot be read, those are given that are settled by then. -/
def run : Nat → Lexer → TokenStream
  | 0, l => ⟨l.tokens.reverse, none⟩
  | budget + 1, l =>
    match l.next with
    | .error e => ⟨l.tokens.reverse.take l.settled, some e⟩
    | .ok l' =>
      match l'.tokens with
      | ⟨.streamEnd, _, _⟩ :: _ => ⟨l'.tokens.reverse, none⟩
      | _ => run budget l'

end Lexer

/-- The bytes before the first character that may not occur in a YAML text. -/
def controlOffset? : Nat → List Char → Option Nat
  | _, [] => none
  | n, c :: cs => if isAllowed c then controlOffset? (n + c.utf8Size) cs else some n

/-- The tokens of a text. A byte order mark at its start is passed over. -/
def TokenStream.ofText (text : List Char) : TokenStream :=
  match controlOffset? 0 text with
  | some n => ⟨[], some ⟨.controlCharacter, .byte n, none⟩⟩
  | none =>
    let cursor : Cursor := match text with
      | '\ufeff' :: rest => ⟨rest, ⟨1, 0, 1⟩⟩
      | _ => { rest := text }
    ({ cursor : Lexer }.emit ⟨.streamStart, {}, {}⟩).run (text.length + 2)

end ApiReview.Yaml
