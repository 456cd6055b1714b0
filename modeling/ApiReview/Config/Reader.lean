import ApiReview.Config.Basic
import ApiReview.Text.Class
import ApiReview.Yaml.Typed

/-!
Reading settings from YAML. Nothing is overlooked: an unknown field is refused at every level,
and what is absent takes its default.
-/
namespace ApiReview.Config

open Yaml Yaml.Node

/-- Names with what they stand for. -/
def severities : List (String × Severity) :=
  [.hint, .may, .should, .must].map fun s : Severity => (s.name, s)

def dialects : List (String × Dialect) := Dialect.all.map fun d => (d.name, d)

/-- A value that may be set once. -/
def setOnce {α : Type} (name : String) (old : Option α) (read : Reading α) : Reading (Option α) :=
  match old with
  | some _ => refuse (.duplicateField name)
  | none => some <$> read

/-- URLs by dialect; the last one for a dialect counts. -/
def readUrls (d : LoadedDocument) (path : Path) :
    SchemaUrls → List (Node × Node) → Reading SchemaUrls
  | urls, [] => return urls
  | urls, (key, n) :: rest => do
    let dialect ← readVariant d dialects path key
    let url ← readText d "a string" pure (under path key) n
    readUrls d path (urls.set dialect url) rest

/-- The fields of a rule's settings that have been read. -/
structure SettingsFields where
  enabled : Option Bool := none
  severity : Option (Option Severity) := none
  schemaUrls : Option SchemaUrls := none

def SettingsFields.settings (f : SettingsFields) : RuleSettings where
  enabled := f.enabled.getD true
  severity := f.severity.getD none
  schemaUrls := f.schemaUrls.getD {}

def settingsNames : List String := ["enabled", "severity", "schema_urls"]

def readSettings (d : LoadedDocument) (path : Path) :
    SettingsFields → List (Node × Node) → Reading RuleSettings
  | f, [] => return f.settings
  | f, (key, n) :: rest => do
    let name ← readField d settingsNames path key
    let inside := under path key
    if name = "enabled" then
      let enabled ← setOnce name f.enabled (readLiteral d "bool" "a boolean" bool? inside n)
      readSettings d path { f with enabled } rest
    else if name = "severity" then
      let severity ← setOnce name f.severity (readOptional d (readVariant d severities) inside n)
      readSettings d path { f with severity } rest
    else
      let schemaUrls ← setOnce name f.schemaUrls
        (readMapping d "a map" (fun path => readUrls d path {}) inside n)
      readSettings d path { f with schemaUrls } rest

/-- Settings by rule; the last ones for a rule count. -/
def readRules (d : LoadedDocument) (path : Path) :
    RuleTable → List (Node × Node) → Reading RuleTable
  | rules, [] => return rules
  | rules, (key, n) :: rest => do
    let id ← readText d "a string" pure path key
    let settings ← readMapping d "struct RuleSettings" (fun path => readSettings d path {})
      (under path key) n
    readRules d path (rules.insert id settings) rest

/-- The fields of the settings that have been read. -/
structure Fields where
  timeout : Option Nat := none
  rules : Option RuleTable := none

def Fields.config (f : Fields) : Config :=
  let defaults : Config := {}
  { schemaFetchTimeoutSecs := (f.timeout.map UInt64.ofNat).getD defaults.schemaFetchTimeoutSecs
    rules := f.rules.getD defaults.rules }

def names : List String := ["schema_fetch_timeout_secs", "rules"]

def readFields (d : LoadedDocument) (path : Path) :
    Fields → List (Node × Node) → Reading Config
  | f, [] => return f.config
  | f, (key, n) :: rest => do
    let name ← readField d names path key
    let inside := under path key
    if name = "rules" then
      let rules ← setOnce name f.rules
        (readMapping d "a map" (fun path => readRules d path .empty) inside n)
      readFields d path { f with rules } rest
    else
      let timeout ← setOnce name f.timeout
        (readLiteral d "int" "u64" (unsigned? (twoTo 64)) inside n)
      readFields d path { f with timeout } rest

/-- Settings from a text. A text without content gives the defaults. -/
def ofText (text : String) : Except Yaml.Error Config :=
  if text.toList.all Text.isBlank then .ok {}
  else
    let d := LoadedDocument.ofText text.toList
    d.whole (match d.root with
      | none => pure {}
      | some n => readMapping d "struct LintConfig" (fun path => readFields d path {}) [] n)

end ApiReview.Config
