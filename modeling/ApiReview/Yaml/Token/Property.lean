import ApiReview.Yaml.Token.Basic

/-!
Directives, anchors, aliases and tags.
-/
namespace ApiReview.Yaml

/-- Octets of a percent-escaped character: how many follow the first one. -/
def octetCount? (octet : Nat) : Option Nat :=
  if octet < 0x80 then some 1
  else if 0xC0 ≤ octet && octet < 0xE0 then some 2
  else if 0xE0 ≤ octet && octet < 0xF0 then some 3
  else if 0xF0 ≤ octet && octet < 0xF8 then some 4
  else none

/-- The bits that an octet adds to a code point of so many octets. -/
def octetBits (count octet : Nat) (first : Bool) : Nat :=
  if first then
    match count with
    | 1 => octet
    | 2 => octet % 0x20
    | 3 => octet % 0x10
    | _ => octet % 0x08
  else octet % 0x40

/-- One escaped octet. -/
def uriOctet (activity : Activity) (began : Mark) (c : Cursor) : Except SyntaxError Nat :=
  match c.is '%', (c.peek? 1).bind Text.hexValue?, (c.peek? 2).bind Text.hexValue? with
  | true, some high, some low => .ok (16 * high + low)
  | _, _, _ => failIn c .expectedOctet activity began

/-- The octets after the first of an escaped character. -/
def uriTail (activity : Activity) (began : Mark) : Nat → Nat → Cursor →
    Except SyntaxError (Nat × Cursor)
  | 0, code, c => .ok (code, c)
  | n + 1, code, c => do
    let octet ← uriOctet activity began c
    if octet / 0x40 ≠ 2 then failIn c .trailingOctet activity began
    else uriTail activity began n (code * 0x40 + octet % 0x40) (c.skip 3)

/-- A character written as escaped octets. -/
def uriEscape (activity : Activity) (began : Mark) (c : Cursor) :
    Except SyntaxError (Char × Cursor) := do
  let octet ← uriOctet activity began c
  let some count := octetCount? octet | failIn c .leadingOctet activity began
  let (code, c) ← uriTail activity began (count - 1) (octetBits count octet true) (c.skip 3)
  return (Char.ofNat code, c)

def isUriChar (verbatim : Bool) (c : Char) : Bool :=
  isNameChar c || [';', '/', '?', ':', '@', '&', '=', '+', '$', '.', '%', '!', '~', '*', '\'',
    '(', ')'].contains c || (verbatim && [',', '[', ']'].contains c)

/-- The characters of a tag's URI, in reverse. -/
def uriChars (verbatim : Bool) (activity : Activity) (began : Mark) :
    Nat → List Char → Cursor → Except SyntaxError (List Char × Cursor)
  | 0, read, c => .ok (read, c)
  | budget + 1, read, c =>
    match c.peek? with
    | none => .ok (read, c)
    | some x =>
      if !isUriChar verbatim x then .ok (read, c)
      else if x = '%' then do
        let (y, c) ← uriEscape activity began c
        uriChars verbatim activity began budget (y :: read) c
      else uriChars verbatim activity began budget (x :: read) c.next

/-- A tag's URI after a head, of which the first character is dropped. It may not be empty
if there is no head. -/
def readUri (verbatim : Bool) (activity : Activity) (began : Mark) (head : List Char)
    (c : Cursor) : Except SyntaxError (List Char × Cursor) := do
  let (read, after) ← uriChars verbatim activity began (c.rest.length + 1) [] c
  if head.isEmpty && read.isEmpty then failIn after .expectedTagUri activity began
  else return (head.drop 1 ++ read.reverse, after)

/-- A tag handle: a bang, and maybe a name and another bang. -/
def readHandle (directive : Bool) (began : Mark) (c : Cursor) :
    Except SyntaxError (List Char × Cursor) :=
  if !c.is '!' then
    failIn c .expectedBang (if directive then .tagDirectiveHandle else .tag) began
  else
    let (name, after) := c.next.takeWhile isNameChar
    if after.is '!' then .ok ('!' :: name ++ ['!'], after.next)
    else if directive && !name.isEmpty then failIn after .expectedBang .tagDirectiveHandleEnd began
    else .ok ('!' :: name, after)

/-- A tag: verbatim between angle brackets, or a handle and a tail. -/
def readTag (flow : Bool) (c : Cursor) : Except SyntaxError (Token × Cursor) := do
  let began := c.mark
  let (handle, tail, c) ←
    if c.is '<' 1 then do
      let (tail, c) ← readUri true .tagUri began [] (c.skip 2)
      if !c.is '>' then failIn c .expectedTagClose .tag began
      else pure ([], tail, c.next)
    else do
      let (handle, c) ← readHandle false began c
      if handle.length ≥ 2 && handle.getLast? = some '!' then
        let (tail, c) ← readUri false .tagUri began [] c
        pure (handle, tail, c)
      else
        let (tail, c) ← readUri false .tagUri began handle c
        pure (if tail.isEmpty then ([], ['!'], c) else (['!'], tail, c))
  if !(flow && c.is ',') && !c.atGap then failIn c .expectedBlankOrBreak .tag began
  else return (⟨.tag (String.ofList handle) (String.ofList tail), began, c.mark⟩, c)

/-- What may stand right after the name of an anchor. -/
def endsAnchor (c : Cursor) : Bool :=
  c.atGap || c.sees fun x => ['?', ':', ',', ']', '}', '%', '@', '`'].contains x

def readAnchor (isAlias : Bool) (c : Cursor) : Except SyntaxError (Token × Cursor) :=
  let (name, after) := c.next.takeWhile isNameChar
  if name.isEmpty || !endsAnchor after then
    failIn after .expectedAlphanumeric (if isAlias then .alias else .anchor) c.mark
  else
    let name := String.ofList name
    .ok (⟨if isAlias then .alias name else .anchor name, c.mark, after.mark⟩, after)

/-- A number of at most nine digits. -/
def versionNumber (began : Mark) (c : Cursor) : Except SyntaxError (Nat × Cursor) :=
  let (ds, after) := c.takeWhile Decimal.isDigit
  if 9 < ds.length then failIn (c.skip 9) .longVersion .versionDirective began
  else if ds.isEmpty then failIn c .expectedVersion .versionDirective began
  else .ok (Decimal.value ds, after)

def versionValue (began : Mark) (c : Cursor) : Except SyntaxError (TokenKind × Cursor) := do
  let (major, c) ← versionNumber began (c.skipWhile isBlank)
  if !c.is '.' then failIn c .expectedDigitOrDot .versionDirective began
  else
    let (minor, c) ← versionNumber began c.next
    return (.version major minor, c)

def tagHandleValue (began : Mark) (c : Cursor) : Except SyntaxError (TokenKind × Cursor) := do
  let (handle, c) ← readHandle true began (c.skipWhile isBlank)
  if !c.sees isBlank then failIn c .expectedBlank .tagDirective began
  else
    let (expansion, c) ← readUri true .tagDirectiveUri began [] (c.skipWhile isBlank)
    if !c.atGap then failIn c .expectedBlankOrBreak .tagDirective began
    else return (.tagHandle (String.ofList handle) (String.ofList expansion), c)

/-- A directive and the rest of its line. -/
def readDirective (c : Cursor) : Except SyntaxError (Token × Cursor) := do
  let began := c.mark
  let (name, c) := c.next.takeWhile isNameChar
  if name.isEmpty then failIn c .expectedDirectiveName .directive began
  else if !c.atGap then failIn c .nonAlphabetical .directive began
  else
    let (kind, c) ←
      if name = ['Y', 'A', 'M', 'L'] then versionValue began c
      else if name = ['T', 'A', 'G'] then tagHandleValue began c
      else failIn c .unknownDirective .directive began
    let stop := c.mark
    let c := c.skipBlanksAndComment
    if !c.atBreak then failIn c .expectedCommentOrBreak .directive began
    else return (⟨kind, began, stop⟩, c.skipLine)

end ApiReview.Yaml
