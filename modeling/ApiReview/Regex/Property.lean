import ApiReview.Regex.Basic
import ApiReview.Text.Category

/-!
Sets of characters by the names of their Unicode properties: general categories, a few scripts
and a few other properties. Names are compared without their case, blanks and joining marks.
-/
namespace ApiReview.CharSet

/-- The union of classes given by ranges. -/
def ofRanges (l : List Text.Ranges) : CharSet :=
  .ranges (l.foldl (· ++ ·) #[])

section Categories

open Text.Category

def casedLetters : List Text.Ranges := [uppercaseLetter, lowercaseLetter, titlecaseLetter]
def letters : List Text.Ranges := casedLetters ++ [modifierLetter, otherLetter]
def marks : List Text.Ranges := [nonspacingMark, spacingMark, enclosingMark]
def numbers : List Text.Ranges := [decimalNumber, letterNumber, otherNumber]

def punctuation : List Text.Ranges :=
  [connectorPunctuation, dashPunctuation, openPunctuation, closePunctuation, initialPunctuation,
    finalPunctuation, otherPunctuation]

def symbols : List Text.Ranges := [mathSymbol, currencySymbol, modifierSymbol, otherSymbol]
def separators : List Text.Ranges := [spaceSeparator, lineSeparator, paragraphSeparator]

/-- All categories but those of code points without a character. -/
def assigned : List Text.Ranges :=
  letters ++ marks ++ numbers ++ punctuation ++ symbols ++ separators ++
    [control, format, privateUse]

/-- A general category by its short or its long name. -/
def category? : String → Option CharSet
  | "lu" | "uppercaseletter" => some (.ranges uppercaseLetter)
  | "ll" | "lowercaseletter" => some (.ranges lowercaseLetter)
  | "lt" | "titlecaseletter" => some (.ranges titlecaseLetter)
  | "lm" | "modifierletter" => some (.ranges modifierLetter)
  | "lo" | "otherletter" => some (.ranges otherLetter)
  | "mn" | "nonspacingmark" => some (.ranges nonspacingMark)
  | "mc" | "spacingmark" => some (.ranges spacingMark)
  | "me" | "enclosingmark" => some (.ranges enclosingMark)
  | "nl" | "letternumber" => some (.ranges letterNumber)
  | "no" | "othernumber" => some (.ranges otherNumber)
  | "pc" | "connectorpunctuation" => some (.ranges connectorPunctuation)
  | "pd" | "dashpunctuation" => some (.ranges dashPunctuation)
  | "ps" | "openpunctuation" => some (.ranges openPunctuation)
  | "pe" | "closepunctuation" => some (.ranges closePunctuation)
  | "pi" | "initialpunctuation" => some (.ranges initialPunctuation)
  | "pf" | "finalpunctuation" => some (.ranges finalPunctuation)
  | "po" | "otherpunctuation" => some (.ranges otherPunctuation)
  | "sm" | "mathsymbol" => some (.ranges mathSymbol)
  | "sc" | "currencysymbol" => some (.ranges currencySymbol)
  | "sk" | "modifiersymbol" => some (.ranges modifierSymbol)
  | "so" | "othersymbol" => some (.ranges otherSymbol)
  | "zs" | "spaceseparator" => some (.ranges spaceSeparator)
  | "zl" | "lineseparator" => some (.ranges lineSeparator)
  | "zp" | "paragraphseparator" => some (.ranges paragraphSeparator)
  | "cf" | "format" => some (.ranges format)
  | "co" | "privateuse" => some (.ranges privateUse)
  | "nd" | "decimalnumber" | "digit" => some (.ranges decimalNumber)
  | "cc" | "control" | "cntrl" => some (.ranges control)
  | "cs" | "surrogate" => some .none
  | "cn" | "unassigned" => some (.negated (ofRanges assigned))
  | "lc" | "casedletter" => some (ofRanges casedLetters)
  | "l" | "letter" => some (ofRanges letters)
  | "m" | "mark" | "combiningmark" => some (ofRanges marks)
  | "n" | "number" => some (ofRanges numbers)
  | "p" | "punctuation" | "punct" => some (ofRanges punctuation)
  | "s" | "symbol" => some (ofRanges symbols)
  | "z" | "separator" => some (ofRanges separators)
  | "c" | "other" =>
    some (.union (ofRanges [control, format, privateUse]) (.negated (ofRanges assigned)))
  | "any" => some .all
  | "assigned" => some (ofRanges assigned)
  | "ascii" => some (.ranges #[(0, 127)])
  | _ => Option.none

/-- A property that a character has or has not. -/
def property? : String → Option CharSet
  | "alphabetic" | "alpha" => some (ofRanges (letters ++ [letterNumber, otherAlphabetic]))
  | "uppercase" | "upper" => some (ofRanges [uppercaseLetter, otherUppercase])
  | "lowercase" | "lower" => some (ofRanges [lowercaseLetter, otherLowercase])
  | "whitespace" | "space" | "wspace" => some .unicodeSpace
  | "asciihexdigit" | "ahex" => some .hexDigit
  | _ => Option.none

end Categories

/-- A script by its short or its long name. -/
def script? : String → Option CharSet
  | "latin" | "latn" => some (.ranges Text.Script.latin)
  | "greek" | "grek" => some (.ranges Text.Script.greek)
  | "cyrillic" | "cyrl" => some (.ranges Text.Script.cyrillic)
  | "han" | "hani" => some (.ranges Text.Script.han)
  | "hiragana" | "hira" => some (.ranges Text.Script.hiragana)
  | "katakana" | "kana" => some (.ranges Text.Script.katakana)
  | "arabic" | "arab" => some (.ranges Text.Script.arabic)
  | "hebrew" | "hebr" => some (.ranges Text.Script.hebrew)
  | _ => Option.none

/-- A name without what does not count in it. -/
def plainName (cs : List Char) : String :=
  let cs := (cs.filter fun c => c ≠ ' ' && c ≠ '_' && c ≠ '-' && c.toNat < 128).map Char.toLower
  match cs with
  | 'i' :: 's' :: rest => String.ofList (if rest = ['c'] then cs else rest)
  | _ => String.ofList cs

/-- A class by one name. -/
def ofName? (cs : List Char) : Option CharSet :=
  let name := plainName cs
  (property? name).or ((category? name).or (script? name))

/-- A class by the name of a property and of its value. -/
def ofValue? (property value : List Char) : Option CharSet :=
  match plainName property with
  | "generalcategory" | "gc" => category? (plainName value)
  | "script" | "sc" => script? (plainName value)
  | _ => Option.none

end ApiReview.CharSet
