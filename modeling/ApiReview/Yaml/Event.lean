import ApiReview.Yaml.Token.Stream

/-!
Events: the nodes of the documents in a text, in order. The grammar is a stack of what is
expected next; one step looks at one token.
-/
namespace ApiReview.Yaml

/-- The name a node can be referred by, and its tag. -/
structure Properties where
  anchor : Option String := none
  tag : Option String := none
  deriving DecidableEq

inductive EventKind where
  | documentStart | documentEnd | streamEnd
  | alias (name : String)
  | scalar (properties : Properties) (text : String) (style : ScalarStyle)
  | sequenceStart (properties : Properties)
  | sequenceEnd
  | mappingStart (properties : Properties)
  | mappingEnd
  deriving DecidableEq

structure Event where
  kind : EventKind
  mark : Mark
  deriving DecidableEq

/-- The events that can be read, and why no more can be. -/
structure EventStream where
  events : List Event
  failure : Option SyntaxError

/-- What the grammar expects. Collections carry the mark where they began. -/
inductive Expect where
  | stream
  | document (first : Bool)
  | content | documentEnd
  | node (block indentless : Bool)
  | blockItem (began : Mark) | indentlessItem
  | blockKey (began : Mark) | blockValue (began : Mark)
  | flowItem (first : Bool) (began : Mark)
  | pairKey | pairValue | pairEnd
  | flowKey (first : Bool) (began : Mark) | flowValue | flowNoValue
  deriving DecidableEq

structure Grammar where
  tokens : List Token
  /-- What comes next, the nearest first. -/
  expected : List Expect := [.stream]
  /-- Tag handles of the current document. -/
  handles : List (String × String) := []
  /-- The last event first. -/
  events : List Event := []

/-- Why no step could be made. -/
inductive Stop where
  | outOfTokens
  | syntaxError (e : SyntaxError)

abbrev Parsing := Except Stop Grammar

namespace Grammar

def emit (g : Grammar) (kind : EventKind) (mark : Mark) : Grammar :=
  { g with events := ⟨kind, mark⟩ :: g.events }

/-- A scalar that is not written. -/
def emitEmpty (g : Grammar) (mark : Mark) : Grammar := g.emit (.scalar {} "" .plain) mark

def push (g : Grammar) (es : List Expect) : Grammar := { g with expected := es ++ g.expected }

def drop (g : Grammar) : Grammar := { g with tokens := g.tokens.drop 1 }

def token (g : Grammar) : Except Stop Token :=
  match g.tokens with
  | t :: _ => .ok t
  | [] => .error .outOfTokens

def fail {α : Type} (problem : Problem) (mark : Mark) (context : Option (Activity × Mark) := none) :
    Except Stop α :=
  .error (.syntaxError ⟨problem, .mark mark, context⟩)

/-- A node is expected unless a token of the given kinds stands there. -/
def nodeUnless (g : Grammar) (kinds : List TokenKind) (empty : Mark) (node : Expect) : Parsing := do
  let t ← g.token
  return if kinds.contains t.kind then g.emitEmpty empty else g.push [node]

/-- Directives in front of a document, with the version if one was given. -/
def directives : Nat → Option Unit → Grammar → Except Stop Grammar
  | 0, _, g => .ok g
  | budget + 1, version, g => do
    let t ← g.token
    match t.kind with
    | .version major minor =>
      if version.isSome then fail .duplicateVersion t.start
      else if major ≠ 1 || (minor ≠ 1 && minor ≠ 2) then fail .incompatibleVersion t.start
      else directives budget (some ()) g.drop
    | .tagHandle handle expansion =>
      if g.handles.any (·.1 = handle) then fail .duplicateHandle t.start
      else
        let handles := g.handles ++ [(handle, expansion)]
        directives budget version { g.drop with handles }
    | _ => return g

/-- The handles that need no directive. -/
def defaultHandles : List (String × String) := [("!", "!"), ("!!", "tag:yaml.org,2002:")]

/-- A document begins, with or without a line that says so. -/
def document (g : Grammar) (first : Bool) : Parsing := do
  let g := if first then g else
    { g with tokens := g.tokens.dropWhile (·.kind = .documentEnd) }
  let t ← g.token
  let explicit := match t.kind with
    | .version _ _ | .tagHandle _ _ | .documentStart => true
    | _ => false
  if t.kind = .streamEnd then return g.drop.emit .streamEnd t.start
  else if first && !explicit then
    return ({ g with handles := defaultHandles }.emit .documentStart t.start).push
      [.node true false, .documentEnd]
  else
    let g ← directives (g.tokens.length + 1) none { g with handles := [] }
    let g := { g with handles := g.handles ++ defaultHandles }
    let start ← g.token
    if start.kind = .documentStart then
      return (g.drop.emit .documentStart t.start).push [.content, .documentEnd]
    else fail .expectedDocumentStart start.start

/-- The full tag for a handle and a tail; none if the handle is unknown. -/
def resolveTag (g : Grammar) (handle tail : String) : Option String :=
  if handle.isEmpty then some tail
  else (g.handles.find? (·.1 = handle)).map (·.2 ++ tail)

/-- An anchor and a tag in front of a node, in either order, where they begin, and where
the tag stands. -/
def properties (g : Grammar) :
    Except Stop (Option String × Option (String × String × Mark) × Grammar) := do
  let t ← g.token
  match t.kind with
  | .anchor name =>
    let g := g.drop
    let u ← g.token
    match u.kind with
    | .tag handle tail => return (some name, some (handle, tail, u.start), g.drop)
    | _ => return (some name, none, g)
  | .tag handle tail =>
    let g := g.drop
    let u ← g.token
    match u.kind with
    | .anchor name => return (some name, some (handle, tail, t.start), g.drop)
    | _ => return (none, some (handle, tail, t.start), g)
  | _ => return (none, none, g)

/-- A node. After a colon a block sequence need not be indented. -/
def node (g : Grammar) (block indentless : Bool) : Parsing := do
  let t ← g.token
  if let .alias name := t.kind then return g.drop.emit (.alias name) t.start
  let start := t.start
  let (anchor, tag, g) ← g.properties
  let tag ← match tag with
    | none => pure none
    | some (handle, tail, mark) =>
      match g.resolveTag handle tail with
      | some tag => pure (some tag)
      | none => fail .undefinedHandle mark (some (.node, start))
  let p : Properties := ⟨anchor, tag⟩
  let t ← g.token
  match t.kind with
  | .scalar text style =>
    let p := if tag = some "!" then { p with tag := none } else p
    return g.drop.emit (.scalar p text style) start
  | .flowSequenceStart => return (g.drop.emit (.sequenceStart p) start).push [.flowItem true t.start]
  | .flowMappingStart => return (g.drop.emit (.mappingStart p) start).push [.flowKey true t.start]
  | .blockSequenceStart =>
    if block then return (g.drop.emit (.sequenceStart p) start).push [.blockItem t.start]
  | .blockMappingStart =>
    if block then return (g.drop.emit (.mappingStart p) start).push [.blockKey t.start]
  | .blockEntry =>
    if indentless then return (g.emit (.sequenceStart p) start).push [.indentlessItem]
  | _ => pure ()
  if anchor.isSome || tag.isSome then return g.emit (.scalar p "" .plain) start
  else fail .expectedNode t.start (some (if block then .blockNode else .flowNode, start))

/-- What follows in a block sequence. -/
def blockItem (g : Grammar) (began : Mark) : Parsing := do
  let t ← g.token
  if t.kind = .blockEntry then
    (g.drop.push [.blockItem began]).nodeUnless [.blockEntry, .blockEnd] t.stop (.node true false)
  else if t.kind = .blockEnd then return g.drop.emit .sequenceEnd t.start
  else fail .expectedDash t.start (some (.blockSequence, began))

/-- What follows in a block sequence that is not indented. -/
def indentlessItem (g : Grammar) : Parsing := do
  let t ← g.token
  if t.kind = .blockEntry then
    (g.drop.push [.indentlessItem]).nodeUnless [.blockEntry, .key, .value, .blockEnd] t.stop
      (.node true false)
  else return g.emit .sequenceEnd t.start

def blockKey (g : Grammar) (began : Mark) : Parsing := do
  let t ← g.token
  if t.kind = .key then
    (g.drop.push [.blockValue began]).nodeUnless [.key, .value, .blockEnd] t.stop (.node true true)
  else if t.kind = .blockEnd then return g.drop.emit .mappingEnd t.start
  else fail .expectedKey t.start (some (.blockMapping, began))

def blockValue (g : Grammar) (began : Mark) : Parsing := do
  let t ← g.token
  let g := g.push [.blockKey began]
  if t.kind = .value then
    g.drop.nodeUnless [.key, .value, .blockEnd] t.stop (.node true true)
  else return g.emitEmpty t.start

/-- What follows in a flow sequence. A key there begins a mapping of one pair. -/
def flowItem (g : Grammar) (first : Bool) (began : Mark) : Parsing := do
  let t ← g.token
  if t.kind = .flowSequenceEnd then return g.drop.emit .sequenceEnd t.start
  if !first && t.kind ≠ .flowEntry then
    fail .expectedCommaOrBracket t.start (some (.flowSequence, began))
  else
    let g := if first then g else g.drop
    let t ← g.token
    if t.kind = .flowSequenceEnd then return g.drop.emit .sequenceEnd t.start
    else if t.kind = .key then
      return (g.drop.emit (.mappingStart {}) t.start).push [.pairKey, .flowItem false began]
    else return g.push [.node false false, .flowItem false began]

def pairKey (g : Grammar) : Parsing := do
  let t ← g.token
  if [TokenKind.value, .flowEntry, .flowSequenceEnd].contains t.kind then
    return (g.drop.push [.pairValue]).emitEmpty t.stop
  else return g.push [.node false false, .pairValue]

def pairValue (g : Grammar) : Parsing := do
  let t ← g.token
  let g := g.push [.pairEnd]
  if t.kind = .value then
    let g := g.drop
    let t ← g.token
    g.nodeUnless [.flowEntry, .flowSequenceEnd] t.start (.node false false)
  else return g.emitEmpty t.start

def pairEnd (g : Grammar) : Parsing := do
  let t ← g.token
  return g.emit .mappingEnd t.start

/-- What follows in a flow mapping. A node without a key mark is a key without a value. -/
def flowKey (g : Grammar) (first : Bool) (began : Mark) : Parsing := do
  let t ← g.token
  if t.kind = .flowMappingEnd then return g.drop.emit .mappingEnd t.start
  if !first && t.kind ≠ .flowEntry then
    fail .expectedCommaOrBrace t.start (some (.flowMapping, began))
  else
    let g := if first then g else g.drop
    let t ← g.token
    if t.kind = .flowMappingEnd then return g.drop.emit .mappingEnd t.start
    else if t.kind = .key then
      let g := g.drop
      let t ← g.token
      (g.push [.flowValue, .flowKey false began]).nodeUnless [.value, .flowEntry, .flowMappingEnd]
        t.start (.node false false)
    else return g.push [.node false false, .flowNoValue, .flowKey false began]

def flowValue (g : Grammar) : Parsing := do
  let t ← g.token
  if t.kind = .value then
    let g := g.drop
    let t ← g.token
    g.nodeUnless [.flowEntry, .flowMappingEnd] t.start (.node false false)
  else return g.emitEmpty t.start

/-- Acts on the nearest expectation. -/
def step (g : Grammar) : Parsing :=
  match g.expected with
  | [] => .error .outOfTokens
  | e :: rest =>
    let g := { g with expected := rest }
    match e with
    | .stream => return g.drop.push [.document true]
    | .document first => g.document first
    | .content => do
      let t ← g.token
      match t.kind with
      | .version _ _ | .tagHandle _ _ | .documentStart | .documentEnd | .streamEnd =>
        return g.emitEmpty t.start
      | _ => return g.push [.node true false]
    | .documentEnd => do
      let t ← g.token
      let g := if t.kind = .documentEnd then g.drop else g
      return ({ g with handles := [] }.emit .documentEnd t.start).push [.document false]
    | .node block indentless => g.node block indentless
    | .blockItem began => g.blockItem began
    | .indentlessItem => g.indentlessItem
    | .blockKey began => g.blockKey began
    | .blockValue began => g.blockValue began
    | .flowItem first began => g.flowItem first began
    | .pairKey => g.pairKey
    | .pairValue => g.pairValue
    | .pairEnd => g.pairEnd
    | .flowKey first began => g.flowKey first began
    | .flowValue => g.flowValue
    | .flowNoValue => do
      let t ← g.token
      return g.emitEmpty t.start

/-- All events. A token gives rise to a few steps, so the budget is a multiple of their number. -/
def run (failure : Option SyntaxError) : Nat → Grammar → EventStream
  | 0, g => ⟨g.events.reverse, failure⟩
  | budget + 1, g =>
    match g.step with
    | .ok g => run failure budget g
    | .error .outOfTokens => ⟨g.events.reverse, failure⟩
    | .error (.syntaxError e) => ⟨g.events.reverse, some e⟩

end Grammar

def EventStream.ofTokens (s : TokenStream) : EventStream :=
  { tokens := s.tokens : Grammar }.run s.failure (8 * s.tokens.length + 16)

def EventStream.ofText (text : List Char) : EventStream := .ofTokens (.ofText text)

end ApiReview.Yaml
