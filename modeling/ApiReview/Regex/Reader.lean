import ApiReview.Regex.Class

/-!
Reading patterns. A pattern in the plain grammar has narrow classes: digits, word characters
and spaces as a schema means them. A pattern that looks around or refers to a group is read
again in the extended grammar, where the classes are those of Unicode.
-/
namespace ApiReview.Regex

open Reading

/-- The settings that a pattern can change on its way. -/
structure Flags where
  anyCase : Bool := false
  multiLine : Bool := false
  dotAll : Bool := false
  swapGreed : Bool := false
  spaced : Bool := false

def Flags.set? (f : Flags) (on : Bool) : Char → Option Flags
  | 'i' => some { f with anyCase := on }
  | 'm' => some { f with multiLine := on }
  | 's' => some { f with dotAll := on }
  | 'U' => some { f with swapGreed := on }
  | 'x' => some { f with spaced := on }
  | 'u' => if on then some f else none
  | _ => none

/-- Groups that have been opened, the names of some of them, and whether one is referred to. -/
structure Groups where
  opened : Nat := 0
  names : List (String × Nat) := []
  referred : Bool := false

abbrev GroupReading := StateT Groups Reading

/-- With blanks and remarks allowed, skips them. -/
def skipSpace (flags : Flags) : Nat → Reading Unit
  | 0 => pure ()
  | n + 1 => do
    if flags.spaced then
      let _ ← takeWhile Text.isBlank
      if ← accept "#" then
        let _ ← takeWhile (· ≠ '\n')
        skipSpace flags n

/-- A run of decimal digits below `2 ^ 32`. -/
def count : Reading (Option Nat) := do
  let cs ← takeWhile Decimal.isDigit
  if cs.isEmpty then return none
  if Decimal.value cs < twoTo 32 then return some (Decimal.value cs) else refuse

/-- How often something is repeated. -/
structure Repetition where
  least : Nat
  most : Option Nat

/-- A counted repetition whose brace has been taken; none if it is not written as one. -/
def counted (g : Grammar) : Reading (Option Repetition) := do
  let low ← count
  let comma ← accept ","
  let high ← if comma then count else pure low
  if !(← accept "\x7d") then return none
  match low, comma, high with
  | some least, false, _ => return some ⟨least, some least⟩
  | some least, true, none => return some ⟨least, none⟩
  | some least, true, some most => if least ≤ most then return some ⟨least, some most⟩ else refuse
  | none, true, most => if g.extended then return some ⟨0, most⟩ else return none
  | none, false, _ => return none

/-- The repetition that is written here, if any. -/
def repetition (g : Grammar) : Reading (Option Repetition) := do
  if ← accept "*" then return some ⟨0, none⟩
  if ← accept "+" then return some ⟨1, none⟩
  if ← accept "?" then return some ⟨0, some 1⟩
  let start ← get
  if ← accept "\x7b" then
    match ← counted g with
    | some r => return some r
    | none =>
      if g.extended then set start; return none
      refuse
  return none

/-- Conditions on a place cannot be repeated. -/
def isRepeatable : Regex → Bool
  | .empty | .assertion _ | .look .. => false
  | _ => true

/-- Applies the repetition that follows, which may be reluctant or keep what it took. -/
def repeatedBy (g : Grammar) (flags : Flags) (r : Regex) : Reading Regex := do
  skipSpace flags (← get).length
  match ← repetition g with
  | none => return r
  | some times =>
    if !isRepeatable r then refuse
    skipSpace flags (← get).length
    let reluctant ← accept "?"
    let r := Regex.repeated r times.least times.most (reluctant == flags.swapGreed)
    if ← accept "+" then return .atomic r else return r

def isNameStart (c : Char) : Bool := c = '_' || (Text.isWordChar c && !Text.isDecimalDigit c)

/-- The name of a group, up to a closing mark. -/
def groupName (closing : String) : Reading String := do
  let cs ← takeWhile Text.isWordChar
  expect closing
  match cs.head? with
  | some c => if isNameStart c then return String.ofList cs else refuse
  | none => refuse

/-- Opens the next group under a name. -/
def openGroup (name : Option String) : GroupReading Nat := do
  let groups ← get
  let index := groups.opened + 1
  match name with
  | none => set { groups with opened := index }
  | some name =>
    if (groups.names.lookup name).isSome then throw .malformed
    set { groups with opened := index, names := (name, index) :: groups.names }
  return index

/-- Refers to a group, which has to be open already. -/
def referTo (flags : Flags) (index : Nat) : GroupReading Regex := do
  let groups ← get
  if groups.opened < index then throw .malformed
  set { groups with referred := true }
  return .reference index flags.anyCase

def namedReference (flags : Flags) (closing : String) : GroupReading Regex := do
  let cs ← takeWhile fun c => Text.isWordChar c || c = '-'
  expect closing
  match (← get).names.lookup (String.ofList cs) with
  | some index => referTo flags index
  | none => match cs with
    | '-' :: ds =>
      let back := Decimal.value ds
      if ds.isEmpty || !ds.all Decimal.isDigit || back = 0 || (← get).opened < back then
        throw .malformed
      referTo flags ((← get).opened + 1 - back)
    | ds =>
      if ds.isEmpty || !ds.all Decimal.isDigit then throw .malformed
      referTo flags (Decimal.value ds)

/-- Letters that set or clear flags, each at most once, up to the mark that ends them. -/
def flagLetters (on : Bool) (seen : List Char) : Nat → Flags → Reading (Flags × Bool)
  | 0, _ => refuse
  | n + 1, flags => do
    let c ← next
    if c = ':' || c = ')' then
      if seen.head? = some '-' || (c = ')' && seen.isEmpty) then refuse
      return (flags, c = ':')
    if seen.contains c then refuse
    if c = '-' then return ← flagLetters false (c :: seen) n flags
    match flags.set? on c with
    | some flags => flagLetters on (c :: seen) n flags
    | none => refuse

/-- What an opening parenthesis begins. -/
inductive Opening where
  | plain
  | group (name : Option String)
  | flags (closed : Bool) (flags : Flags)
  | look (behind negated : Bool)
  | atomic
  | remark
  | reference

/-- The marks of looks: whether behind, and whether negated. -/
def lookMark : Reading (Option (Bool × Bool)) := do
  if ← accept "=" then return some (false, false)
  if ← accept "!" then return some (false, true)
  if ← accept "<=" then return some (true, false)
  if ← accept "<!" then return some (true, true)
  return none

/-- Reads what stands behind an opening parenthesis. -/
def opening (g : Grammar) (flags : Flags) : Reading Opening := do
  if !(← accept "?") then return .group none
  if let some (behind, negated) ← lookMark then
    if g.extended then return .look behind negated else throw .extended
  if ← accept "P<" then return .group (some (← groupName ">"))
  if ← accept "<" then return .group (some (← groupName ">"))
  if ← accept ":" then return .plain
  if g.extended then
    if ← accept ">" then return .atomic
    if ← accept "#" then return .remark
    if ← accept "P=" then return .reference
  let (flags, inside) ← flagLetters true [] (← get).length flags
  return .flags (!inside) flags

mutual

/-- Alternatives up to the end of a group or of the pattern. -/
def alternatives (g : Grammar) (nesting : Nat) : Nat → Flags → GroupReading Regex
  | 0, _ => throw .malformed
  | n + 1, flags => do
    let (first, flags) ← pieces g nesting n flags .empty
    if ← accept "|" then return .alt first (← alternatives g nesting n flags)
    return first

/-- Pieces one after the other, with the flags that hold behind them. -/
def pieces (g : Grammar) (nesting : Nat) : Nat → Flags → Regex → GroupReading (Regex × Flags)
  | 0, _, _ => throw .malformed
  | n + 1, flags, before => do
    skipSpace flags n
    match ← (peek : Reading (Option Char)) with
    | none | some '|' | some ')' => return (before, flags)
    | some '(' =>
      expect "("
      match ← opening g flags with
      | .flags true flags => pieces g nesting n flags before
      | .remark =>
        let _ ← takeWhile (· ≠ ')')
        expect ")"
        pieces g nesting n flags before
      | kind =>
        let r ← parenthesized g nesting n flags kind
        pieces g nesting n flags (before.andThen (← repeatedBy g flags r))
    | some c =>
      let r ← single g flags c n
      pieces g nesting n flags (before.andThen (← repeatedBy g flags r))

/-- A group, from behind its opening to its end. Groups nest less than 64 deep. -/
def parenthesized (g : Grammar) (nesting : Nat) : Nat → Flags → Opening → GroupReading Regex
  | 0, _, _ => throw .malformed
  | n + 1, flags, kind => do
    if 63 ≤ nesting then throw .malformed
    match kind with
    | .reference => namedReference flags ")"
    | .group name =>
      let index ← openGroup name
      let r ← alternatives g (nesting + 1) n flags
      expect ")"
      return .group index r
    | .flags _ inner =>
      let r ← alternatives g (nesting + 1) n inner
      expect ")"
      return r
    | .look behind negated =>
      let r ← alternatives g (nesting + 1) n flags
      expect ")"
      if !behind then return .look 0 negated r
      match lookBehind? negated r with
      | some r => return r
      | none => throw .malformed
    | .atomic =>
      let r ← alternatives g (nesting + 1) n flags
      expect ")"
      return .atomic r
    | .plain | .remark =>
      let r ← alternatives g (nesting + 1) n flags
      expect ")"
      return r

/-- A piece without parentheses. -/
def single (g : Grammar) (flags : Flags) (c : Char) : Nat → GroupReading Regex
  | 0 => throw .malformed
  | n + 1 => do
    let _ ← (next : Reading Char)
    match c with
    | '.' => return .chars (if flags.dotAll then .all else .line)
    | '^' => return .assertion (if flags.multiLine then .lineStart else .textStart)
    | '$' => return .assertion (if flags.multiLine then .lineEnd else .textEnd)
    | '*' | '+' | '?' => throw .malformed
    | '[' => return .chars (← g.bracketed flags.anyCase (n + 1))
    | '\\' =>
      if g.extended then
        let digits ← takeWhile Decimal.isDigit
        if !digits.isEmpty then return ← referTo flags (Decimal.value digits)
        if ← accept "k<" then return ← namedReference flags ">"
        if ← accept "k'" then return ← namedReference flags "'"
      match ← g.escape with
      | .char c => return .chars (leaf flags.anyCase (.singleton c))
      | .set s => return .chars (leaf flags.anyCase s)
      | .assertion a => return .assertion a
      | .regex r => return r
    | '{' =>
      if g.extended then return .chars (leaf flags.anyCase (.singleton c)) else throw .malformed
    | _ => return .chars (leaf flags.anyCase (.singleton c))

end

/-- Reads a whole pattern in one grammar. -/
def readIn (g : Grammar) (cs : List Char) : Except Refusal Regex := do
  let fuel := 3 * cs.length + 3
  let ((r, groups), rest) ← ((alternatives g 0 fuel {}).run {}).run cs
  if !rest.isEmpty then throw .malformed
  return if groups.referred then r else r.withoutGroups

/-- Reads a pattern. One that looks around or refers to a group takes the extended grammar. -/
def read? (pattern : String) : Option Regex :=
  match readIn ⟨false⟩ pattern.toList with
  | .ok r => some r
  | .error .malformed => none
  | .error .extended => (readIn ⟨true⟩ pattern.toList).toOption

end ApiReview.Regex
