import ApiReview.Yaml.Cursor

/-!
The tokens of a YAML text.
-/
namespace ApiReview.Yaml

inductive ScalarStyle where
  | plain
  | singleQuoted
  | doubleQuoted
  | literal
  | folded
  deriving DecidableEq

inductive TokenKind where
  | streamStart | streamEnd
  | version (major minor : Nat)
  | tagHandle (handle expansion : String)
  | documentStart | documentEnd
  | blockSequenceStart | blockMappingStart | blockEnd
  | flowSequenceStart | flowSequenceEnd | flowMappingStart | flowMappingEnd
  | blockEntry | flowEntry | key | value
  | alias (name : String)
  | anchor (name : String)
  | tag (handle tail : String)
  | scalar (text : String) (style : ScalarStyle)
  deriving DecidableEq

structure Token where
  kind : TokenKind
  start : Mark
  stop : Mark
  deriving DecidableEq

/-- The tokens that can be read, and why no more can be. -/
structure TokenStream where
  tokens : List Token
  failure : Option SyntaxError

end ApiReview.Yaml
