import ApiReview.Yaml.Event

/-!
The tree of a document. Where the text stops being YAML the tree is cut, so what stands
before that place can still be looked at first.
-/
namespace ApiReview.Yaml

/-- Why a document could not be read to its end. -/
inductive LoadError where
  | malformed (e : SyntaxError)
  | unknownAnchor (mark : Mark)
  deriving DecidableEq

inductive Node where
  | scalar (mark : Mark) (anchor : Option Nat) (tag : Option String) (text : String)
      (style : ScalarStyle)
  | sequence (mark : Mark) (anchor : Option Nat) (tag : Option String) (items : List Node)
  | mapping (mark : Mark) (anchor : Option Nat) (tag : Option String) (pairs : List (Node × Node))
  | alias (mark : Mark) (target : Nat)
  /-- The rest of the document could not be read. -/
  | cut
  deriving Inhabited

namespace Node

def mark : Node → Mark
  | .scalar m _ _ _ _ | .sequence m _ _ _ | .mapping m _ _ _ | .alias m _ => m
  | .cut => {}

mutual

/-- The nodes with an anchor, in the order of their beginnings. -/
def anchored : Node → List (Nat × Node)
  | n@(.scalar _ anchor _ _ _) => anchor.toList.map (·, n)
  | n@(.sequence _ anchor _ items) => anchor.toList.map (·, n) ++ anchoredItems items
  | n@(.mapping _ anchor _ pairs) => anchor.toList.map (·, n) ++ anchoredPairs pairs
  | .alias _ _ | .cut => []

def anchoredItems : List Node → List (Nat × Node)
  | [] => []
  | n :: rest => anchored n ++ anchoredItems rest

def anchoredPairs : List (Node × Node) → List (Nat × Node)
  | [] => []
  | (k, v) :: rest => anchored k ++ anchored v ++ anchoredPairs rest

end

end Node

/-- A collection that is still open. -/
inductive Frame where
  | sequence (mark : Mark) (anchor : Option Nat) (tag : Option String) (done : List Node)
  | mapping (mark : Mark) (anchor : Option Nat) (tag : Option String) (done : List (Node × Node))
      (key : Option Node)

/-- A document under construction. Names of anchors are numbered by how many are known
when one appears, so a name used again may share its number with a later one. -/
structure Composer where
  root : Option Node := none
  frames : List Frame := []
  names : List (String × Nat) := []
  /-- How many events were taken. -/
  events : Nat := 0

namespace Composer

/-- Adds a complete node to the innermost open collection. -/
def add (s : Composer) (n : Node) : Composer :=
  match s.frames with
  | [] => { s with root := some n }
  | .sequence m a t done :: rest => { s with frames := .sequence m a t (n :: done) :: rest }
  | .mapping m a t done none :: rest => { s with frames := .mapping m a t done (some n) :: rest }
  | .mapping m a t done (some k) :: rest =>
    { s with frames := .mapping m a t ((k, n) :: done) none :: rest }

/-- Gives an anchor its number. -/
def name (s : Composer) (anchor : Option String) : Option Nat × Composer :=
  match anchor with
  | none => (none, s)
  | some name =>
    let id := s.names.length
    let names := (name, id) :: s.names.filter (·.1 ≠ name)
    (some id, { s with names })

/-- Closes the innermost open collection. -/
def close (s : Composer) : Composer :=
  match s.frames with
  | [] => s
  | .sequence m a t done :: rest => { s with frames := rest }.add (.sequence m a t done.reverse)
  | .mapping m a t done _ :: rest => { s with frames := rest }.add (.mapping m a t done.reverse)

/-- Takes one event; an alias must name an anchor that is known. -/
def take (s : Composer) (e : Event) : Except LoadError Composer :=
  let s' := { s with events := s.events + 1 }
  match e.kind with
  | .alias name =>
    match s.names.find? (·.1 = name) with
    | some (_, id) => .ok (s'.add (.alias e.mark id))
    | none => .error (.unknownAnchor e.mark)
  | .scalar p text style =>
    let (anchor, s) := s'.name p.anchor
    .ok (s.add (.scalar e.mark anchor p.tag text style))
  | .sequenceStart p =>
    let (anchor, s) := s'.name p.anchor
    .ok { s with frames := .sequence e.mark anchor p.tag [] :: s.frames }
  | .mappingStart p =>
    let (anchor, s) := s'.name p.anchor
    .ok { s with frames := .mapping e.mark anchor p.tag [] none :: s.frames }
  | .sequenceEnd | .mappingEnd => .ok s'.close
  | .documentStart | .documentEnd | .streamEnd => .ok s

/-- Closes all open collections, each with a cut. -/
def cutAll : List Frame → Node → Node
  | [], n => n
  | .sequence m a t done :: rest, n => cutAll rest (.sequence m a t (n :: done).reverse)
  | .mapping m a t done none :: rest, n => cutAll rest (.mapping m a t ((n, .cut) :: done).reverse)
  | .mapping m a t done (some k) :: rest, n => cutAll rest (.mapping m a t ((k, n) :: done).reverse)

/-- The root as far as it was read. -/
def result (s : Composer) : Node := s.root.getD (cutAll s.frames .cut)

end Composer

/-- The first document of a text. -/
structure LoadedDocument where
  /-- None for a text without content. -/
  root : Option Node
  events : Nat
  failure : Option LoadError
  /-- Whether the text goes on after the document. -/
  more : Bool

namespace LoadedDocument

/-- Composes events up to the end of the first document. -/
def compose (failure : Option SyntaxError) : List Event → Composer → LoadedDocument
  | [], s => ⟨some s.result, s.events, failure.map .malformed, false⟩
  | e :: rest, s =>
    match e.kind with
    | .streamEnd => ⟨s.root, s.events, none, false⟩
    | .documentEnd => ⟨some s.result, s.events, none, (rest.head?.map (·.kind)) ≠ some .streamEnd⟩
    | _ =>
      match s.take e with
      | .ok s => compose failure rest s
      | .error f => ⟨some s.result, s.events, some f, false⟩

def ofText (text : List Char) : LoadedDocument :=
  let s := EventStream.ofText text
  compose s.failure s.events {}

/-- The node that an anchor's number stands for: the last one to begin. -/
def target? (d : LoadedDocument) (id : Nat) : Option Node :=
  ((d.root.map Node.anchored).getD []).reverse.lookup id

end LoadedDocument
end ApiReview.Yaml
