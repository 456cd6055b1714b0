import ApiReview.Decimal.Digits

/-!
Why a text is not YAML. A syntax error has a problem, its place, and often what was
being read and where that began.
-/
namespace ApiReview.Yaml

/-- A place in a text: characters before it, and its line and column, all from zero. -/
structure Mark where
  index : Nat := 0
  line : Nat := 0
  column : Nat := 0
  deriving DecidableEq

namespace Mark

/-- The start of the text, which messages leave out. -/
def isStart (m : Mark) : Bool := m.line = 0 && m.column = 0

def samePlace (a b : Mark) : Bool := a.line = b.line && a.column = b.column

def text (m : Mark) : String :=
  "line " ++ Decimal.text (m.line + 1) ++ " column " ++ Decimal.text (m.column + 1)

/-- The place after a message. -/
def suffix (m : Mark) : String := if m.isStart then "" else " at " ++ m.text

end Mark

inductive Problem where
  | controlCharacter | cannotStartToken | expectedColon
  | blockEntryNotAllowed | keyNotAllowed | valueNotAllowed
  | unknownDirective | expectedCommentOrBreak | expectedDirectiveName | nonAlphabetical
  | expectedDigitOrDot | longVersion | expectedVersion
  | expectedBlank | expectedBlankOrBreak | expectedAlphanumeric
  | expectedTagClose | expectedBang | expectedTagUri | expectedOctet
  | leadingOctet | trailingOctet
  | zeroIndentation | tabForIndentation | tabBelowIndentation
  | documentIndicator | endOfStream | unknownEscape | expectedHex | invalidEscapeCode
  | unexpectedColon
  | expectedDocumentStart | duplicateVersion | incompatibleVersion | duplicateHandle
  | undefinedHandle | expectedNode | expectedDash | expectedKey
  | expectedCommaOrBracket | expectedCommaOrBrace
  deriving DecidableEq

def Problem.text : Problem → String
  | .controlCharacter => "control characters are not allowed"
  | .cannotStartToken => "found character that cannot start any token"
  | .expectedColon => "could not find expected ':'"
  | .blockEntryNotAllowed => "block sequence entries are not allowed in this context"
  | .keyNotAllowed => "mapping keys are not allowed in this context"
  | .valueNotAllowed => "mapping values are not allowed in this context"
  | .unknownDirective => "found unknown directive name"
  | .expectedCommentOrBreak => "did not find expected comment or line break"
  | .expectedDirectiveName => "could not find expected directive name"
  | .nonAlphabetical => "found unexpected non-alphabetical character"
  | .expectedDigitOrDot => "did not find expected digit or '.' character"
  | .longVersion => "found extremely long version number"
  | .expectedVersion => "did not find expected version number"
  | .expectedBlank => "did not find expected whitespace"
  | .expectedBlankOrBreak => "did not find expected whitespace or line break"
  | .expectedAlphanumeric => "did not find expected alphabetic or numeric character"
  | .expectedTagClose => "did not find the expected '>'"
  | .expectedBang => "did not find expected '!'"
  | .expectedTagUri => "did not find expected tag URI"
  | .expectedOctet => "did not find URI escaped octet"
  | .leadingOctet => "found an incorrect leading UTF-8 octet"
  | .trailingOctet => "found an incorrect trailing UTF-8 octet"
  | .zeroIndentation => "found an indentation indicator equal to 0"
  | .tabForIndentation => "found a tab character where an indentation space is expected"
  | .tabBelowIndentation => "found a tab character that violates indentation"
  | .documentIndicator => "found unexpected document indicator"
  | .endOfStream => "found unexpected end of stream"
  | .unknownEscape => "found unknown escape character"
  | .expectedHex => "did not find expected hexdecimal number"
  | .invalidEscapeCode => "found invalid Unicode character escape code"
  | .unexpectedColon => "found unexpected ':'"
  | .expectedDocumentStart => "did not find expected <document start>"
  | .duplicateVersion => "found duplicate %YAML directive"
  | .incompatibleVersion => "found incompatible YAML document"
  | .duplicateHandle => "found duplicate %TAG directive"
  | .undefinedHandle => "found undefined tag handle"
  | .expectedNode => "did not find expected node content"
  | .expectedDash => "did not find expected '-' indicator"
  | .expectedKey => "did not find expected key"
  | .expectedCommaOrBracket => "did not find expected ',' or ']'"
  | .expectedCommaOrBrace => "did not find expected ',' or '\x7d'"

/-- What was being read when a problem was met. -/
inductive Activity where
  | nextToken | simpleKey | directive | versionDirective
  | tagDirective | tagDirectiveHandle | tagDirectiveHandleEnd | tagDirectiveUri
  | anchor | alias | tag | tagUri
  | blockScalar | quotedScalar | quotedEscape | plainScalar
  | node | blockNode | flowNode
  | blockSequence | blockMapping | flowSequence | flowMapping
  deriving DecidableEq

def Activity.text : Activity → String
  | .nextToken => "while scanning for the next token"
  | .simpleKey => "while scanning a simple key"
  | .directive => "while scanning a directive"
  | .versionDirective => "while scanning a %YAML directive"
  | .tagDirective => "while scanning a %TAG directive"
  | .tagDirectiveHandle => "while scanning a tag directive"
  | .tagDirectiveHandleEnd => "while parsing a tag directive"
  | .tagDirectiveUri => "while parsing a %TAG directive"
  | .anchor => "while scanning an anchor"
  | .alias => "while scanning an alias"
  | .tag => "while scanning a tag"
  | .tagUri => "while parsing a tag"
  | .blockScalar => "while scanning a block scalar"
  | .quotedScalar => "while scanning a quoted scalar"
  | .quotedEscape => "while parsing a quoted scalar"
  | .plainScalar => "while scanning a plain scalar"
  | .node => "while parsing a node"
  | .blockNode => "while parsing a block node"
  | .flowNode => "while parsing a flow node"
  | .blockSequence => "while parsing a block collection"
  | .blockMapping => "while parsing a block mapping"
  | .flowSequence => "while parsing a flow sequence"
  | .flowMapping => "while parsing a flow mapping"

inductive Place where
  | mark (m : Mark)
  | byte (offset : Nat)
  deriving DecidableEq

structure SyntaxError where
  problem : Problem
  place : Place
  context : Option (Activity × Mark) := none
  deriving DecidableEq

/-- The place of the context is left out where it is that of the problem. -/
def SyntaxError.message (e : SyntaxError) : String :=
  let place := match e.place with
    | .mark m => m.suffix
    | .byte 0 => ""
    | .byte n => " at position " ++ Decimal.text n
  let context := match e.context with
    | none => ""
    | some (activity, began) =>
      let same := match e.place with
        | .mark m => m.samePlace began
        | .byte _ => false
      ", " ++ activity.text ++ if same then "" else began.suffix
  e.problem.text ++ place ++ context

end ApiReview.Yaml
