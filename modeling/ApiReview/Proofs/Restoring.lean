import ApiReview.Config.Tree
import ApiReview.Lint.Error
import ApiReview.Rules.Builtin
import ApiReview.Proofs.Fields

/-! Settings that are written and read back. Each field that is written is read as it was, and what is
left out in writing is what reading puts in its place. -/
namespace ApiReview

open Yaml Yaml.Node

namespace RuleTable

/-- Settings whose id comes after all others go to the end. -/
theorem insertEntry_last {id : String} {s : RuleSettings} {entries : List (String × RuleSettings)}
    (last : ∀ k ∈ entries.map Prod.fst, k < id) : insertEntry id s entries = entries ++ [(id,s)] := by
  induction entries with
  | nil => rfl
  | cons e rest ih =>
    obtain ⟨k,v⟩ := e
    obtain ⟨here,there⟩ := List.forall_mem_cons.mp last
    have apart : id ≠ k := fun same => String.lt_irrefl k (same ▸ here)
    rw [insertEntry,if_neg (String.lt_asymm here),if_neg apart,ih there,List.cons_append]

theorem eq_empty {t : RuleTable} (none : t.entries = []) : t = .empty := by
  obtain ⟨_,_⟩ := t
  cases none
  rfl

end RuleTable

namespace Config

section
variable {d : LoadedDocument} {path : Path} {pairs : List (Node × Node)}

/-! URLs. -/

theorem lookup_dialects (dialect : Dialect) : dialects.lookup dialect.name = some dialect := by
  cases dialect <;> rfl

theorem readUrls_members (order : List Dialect) (u urls : SchemaUrls)
    (held : holdMembers (order.filterMap fun dialect =>
      (u.get? dialect).map fun url => (dialect.name,.string url)) pairs = true) :
    readUrls d path urls pairs = pure (order.foldl (fun urls dialect =>
      (u.get? dialect).elim urls (urls.set dialect)) urls) := by
  induction order generalizing urls pairs with
  | nil =>
    obtain rfl := holdMembers_nil held
    rfl
  | cons dialect rest ih =>
    rw [List.filterMap_cons] at held
    rw [List.foldl_cons]
    cases own : u.get? dialect with
    | none =>
      rw [own] at held
      exact ih urls held
    | some url =>
      rw [own] at held
      obtain ⟨k,n,others,rfl,name,value,later⟩ := holdMembers_cons held
      have first : readVariant d dialects path k = pure dialect :=
        readVariant_holds name (lookup_dialects dialect)
      have second : readText d "a string" pure (under path k) n = pure url := readText_holds value rfl
      rw [readUrls,first,pure_bind,second,pure_bind]
      exact ih _ later

theorem readUrls_written {u : SchemaUrls} (held : holdMembers u.members pairs = true) :
    readUrls d path {} pairs = pure u := by
  rw [readUrls_members Dialect.all u {} held]
  rcases u with ⟨_ | _,_ | _⟩ <;> rfl

/-! Settings of a rule, field by field. -/

theorem setOnce_new {α : Type} (name : String) {old : Option α} {read : Reading α} {a : α}
    (new : old = none) (done : read = pure a) : setOnce name old read = pure (some a) := by
  rw [new,setOnce,done,map_pure]

theorem bool?_name (b : Bool) : bool? (if b then "true" else "false") = some b := by
  cases b <;> rfl

theorem lookup_severities (s : Severity) : severities.lookup s.name = some s := by
  cases s <;> rfl

theorem readSettings_enabled (d : LoadedDocument) (path : Path) (f : SettingsFields) {b : Bool}
    {more : List (String × Json)}
    (new : f.enabled = none) (held : holdMembers (("enabled",.bool b) :: more) pairs = true) :
    ∃ rest, holdMembers more rest = true ∧
      readSettings d path f pairs = readSettings d path { f with enabled := some b } rest := by
  obtain ⟨k,n,rest,rfl,name,value,later⟩ := holdMembers_cons held
  have known : readField d settingsNames path k = pure "enabled" := readField_holds name rfl
  have plain : n.plain? = some (if b then "true" else "false") := of_decide_eq_true value
  have literal : readLiteral d "bool" "a boolean" bool? (under path k) n = pure b :=
    readLiteral_plain plain (bool?_name b)
  have own := setOnce_new "enabled" new literal
  refine ⟨rest,later,?_⟩
  rw [readSettings,known,pure_bind,if_pos rfl,own,pure_bind]

theorem readSettings_severity (d : LoadedDocument) (path : Path) (f : SettingsFields)
    {severity : Option Severity} {more : List (String × Json)} (new : f.severity = none)
    (held : holdMembers ((severity.map fun v => ("severity",.string v.name)).toList ++ more) pairs =
      true) :
    ∃ rest, holdMembers more rest = true ∧ readSettings d path f pairs =
      readSettings d path { f with severity := severity.map some } rest := by
  cases severity with
  | none => exact ⟨pairs,held,by rw [Option.map_none,← new]⟩
  | some v =>
    obtain ⟨k,n,rest,rfl,name,value,later⟩ := holdMembers_cons held
    have known : readField d settingsNames path k = pure "severity" := readField_holds name rfl
    have variant : readVariant d severities (under path k) n = pure v :=
      readVariant_holds value (lookup_severities v)
    have optional : readOptional d (readVariant d severities) (under path k) n = pure (some v) :=
      readOptional_holds value variant
    have own := setOnce_new "severity" new optional
    refine ⟨rest,later,?_⟩
    rw [readSettings,known,pure_bind,if_neg (by decide),if_pos rfl,own,pure_bind,Option.map_some]

theorem readSettings_schemaUrls {f : SettingsFields} {u : SchemaUrls} (new : f.schemaUrls = none)
    (held : holdMembers (memberUnless u.members.isEmpty "schema_urls" (.object u.members)) pairs =
      true) :
    readSettings d path f pairs =
      pure { f with schemaUrls := if u.members.isEmpty then none else some u }.settings := by
  unfold memberUnless at held
  split at held
  · next empty =>
    obtain rfl := holdMembers_nil held
    rw [readSettings,if_pos empty,← new]
  · next present =>
    obtain ⟨k,n,rest,rfl,name,value,later⟩ := holdMembers_cons held
    obtain rfl := holdMembers_nil later
    have known : readField d settingsNames path k = pure "schema_urls" := readField_holds name rfl
    have mapping : readMapping d "a map" (fun path => readUrls d path {}) (under path k) n = pure u :=
      readMapping_holds value fun pairs members => readUrls_written members
    have own := setOnce_new "schema_urls" new mapping
    rw [readSettings,known,pure_bind,if_neg (by decide),if_neg (by decide),own,pure_bind,
      readSettings,if_neg present]

theorem members_isEmpty_iff {u : SchemaUrls} : u.members.isEmpty = true ↔ u = {} := by
  rcases u with ⟨_ | _,_ | _⟩ <;>
    simp [SchemaUrls.members,Dialect.all,SchemaUrls.get?]

theorem readSettings_written {s : RuleSettings} {expected : String} {n : Node}
    (held : n.holds s.toJson = true) :
    readMapping d expected (fun path => readSettings d path {}) path n = pure s := by
  refine readMapping_holds held fun pairs members => ?_
  rw [List.append_assoc,List.singleton_append] at members
  obtain ⟨rest,others,enabled⟩ := readSettings_enabled d path {} rfl members
  obtain ⟨rest',others',severity⟩ :=
    readSettings_severity d path { enabled := some s.enabled } rfl others
  rw [enabled,severity,readSettings_schemaUrls rfl others']
  have restored : ((s.severity.map some).getD none) = s.severity := by cases s.severity <;> rfl
  have urls : (if s.schemaUrls.members.isEmpty then none else some s.schemaUrls).getD {} =
      s.schemaUrls := by
    split
    · next empty => exact (members_isEmpty_iff.mp empty).symm
    · rfl
  simp only [SettingsFields.settings,Option.getD_some,restored,urls]

/-! Settings by rule. -/

theorem readRules_written (before : List (String × RuleSettings))
    {entries : List (String × RuleSettings)}
    (front : (before.map Prod.fst).Pairwise (· < ·))
    (sorted : ((before ++ entries).map Prod.fst).Pairwise (· < ·))
    (held : holdMembers (entries.map fun (id,s) => (id,s.toJson)) pairs = true) :
    readRules d path ⟨before,front⟩ pairs = pure ⟨before ++ entries,sorted⟩ := by
  induction entries generalizing before pairs with
  | nil =>
    obtain rfl := holdMembers_nil held
    simp only [readRules,List.append_nil]
  | cons e rest ih =>
    obtain ⟨id,s⟩ := e
    obtain ⟨k,n,others,rfl,name,value,later⟩ := holdMembers_cons held
    have read : readText d "a string" pure path k = pure id := readText_holds name rfl
    have last : ∀ k ∈ before.map Prod.fst, k < id := by
      rw [List.map_append,List.pairwise_append] at sorted
      exact fun k member => sorted.2.2 k member id List.mem_cons_self
    have inserted : RuleTable.insert id s ⟨before,front⟩ = ⟨before ++ [(id,s)],
        RuleTable.insertEntry_last last ▸ RuleTable.sorted_insertEntry front⟩ := by
      simp only [RuleTable.insert,RuleTable.insertEntry_last last]
    have whole : before ++ (id,s) :: rest = before ++ [(id,s)] ++ rest := by simp
    rw [readRules,read,pure_bind,readSettings_written value,pure_bind,inserted]
    simp only [whole]
    exact ih _ _ _ later

/-! The settings as a whole. -/

theorem readFields_timeout (d : LoadedDocument) (path : Path) (f : Fields) {t : UInt64}
    {more : List (String × Json)} (new : f.timeout = none)
    (held : holdMembers (("schema_fetch_timeout_secs",.int t.toNat) :: more) pairs = true) :
    ∃ rest, holdMembers more rest = true ∧
      readFields d path f pairs = readFields d path { f with timeout := some t.toNat } rest := by
  obtain ⟨k,n,rest,rfl,name,value,later⟩ := holdMembers_cons held
  have word : t.toNat < twoTo 64 := t.toNat_lt
  have known : readField d names path k = pure "schema_fetch_timeout_secs" :=
    readField_holds name rfl
  have plain : n.plain? = some (String.ofList (Decimal.digits t.toNat)) := by
    obtain ⟨fits,same⟩ := Json.int_word word
    rw [same] at value
    exact of_decide_eq_true value
  have literal : readLiteral d "int" "u64" (unsigned? (twoTo 64)) (under path k) n =
      pure t.toNat :=
    readLiteral_plain plain (unsigned?_digits word)
  have own := setOnce_new "schema_fetch_timeout_secs" new literal
  refine ⟨rest,later,?_⟩
  rw [readFields,known,pure_bind,if_neg (by decide),own,pure_bind]

theorem readFields_rules {f : Fields} {rules : RuleTable} (new : f.rules = none)
    (held : holdMembers (memberUnless rules.entries.isEmpty "rules"
      (.object (rules.entries.map fun (id,s) => (id,s.toJson)))) pairs = true) :
    readFields d path f pairs =
      pure { f with rules := if rules.entries.isEmpty then none else some rules }.config := by
  unfold memberUnless at held
  split at held
  · next empty =>
    obtain rfl := holdMembers_nil held
    rw [readFields,if_pos empty,← new]
  · next present =>
    obtain ⟨k,n,rest,rfl,name,value,later⟩ := holdMembers_cons held
    obtain rfl := holdMembers_nil later
    have known : readField d names path k = pure "rules" := readField_holds name rfl
    have mapping : readMapping d "a map" (fun path => readRules d path .empty) (under path k) n =
        pure rules := readMapping_holds value fun pairs members =>
      readRules_written [] .nil rules.sorted members
    have own := setOnce_new "rules" new mapping
    rw [readFields,known,pure_bind,if_pos rfl,own,pure_bind,readFields,if_neg present]

theorem readFields_written {c : Config} {expected : String} {n : Node}
    (held : n.holds c.toJson = true) :
    readMapping d expected (fun path => readFields d path {}) path n = pure c := by
  refine readMapping_holds held fun pairs members => ?_
  rw [List.singleton_append] at members
  obtain ⟨rest,others,timeout⟩ := readFields_timeout d path {} rfl members
  rw [timeout,readFields_rules rfl others]
  have rules : (if c.rules.entries.isEmpty then none else some c.rules).getD .empty = c.rules := by
    split
    · next empty => exact (RuleTable.eq_empty (List.isEmpty_iff.mp empty)).symm
    · rfl
  simp only [Fields.config,Option.map_some,Option.getD_some,rules,UInt64.ofNat_toNat]

end

/-- Settings as they are read from a document. -/
def ofDocument (d : LoadedDocument) : Except Yaml.Error Config :=
  d.whole (match d.root with
    | none => pure {}
    | some n => readMapping d "struct LintConfig" (fun path => readFields d path {}) [] n)

theorem ofText_eq (text : String) : ofText text =
    if text.toList.all Text.isBlank then .ok {} else ofDocument (.ofText text.toList) := rfl

theorem ofDocument_written {c : Config} {d : LoadedDocument} (held : d.holds c.toJson = true) :
    ofDocument d = .ok c := by
  obtain ⟨⟨n,root,held⟩,whole,single⟩ := LoadedDocument.holds_iff.mp held
  rw [ofDocument,root]
  simp only [readFields_written held]
  exact LoadedDocument.whole_pure whole single c

/-- Only documents with known fields alone are read. -/
theorem fieldsKnown_of_ofDocument {d : LoadedDocument} {ms : List (String × Json)} {c : Config}
    (held : d.holds (.object ms) = true) (done : ofDocument d = .ok c) : FieldsKnown ms := by
  obtain ⟨⟨n,root,held⟩,_⟩ := LoadedDocument.holds_iff.mp held
  rw [ofDocument,root] at done
  unfold LoadedDocument.whole at done
  split at done
  · cases done
  · next read =>
    obtain ⟨r,read,_⟩ := Success.map_iff.mp read
    obtain ⟨_,members,read⟩ := readMapping_ok held read
    exact readFields_known members read

/-! What is left out. -/

/-- The names of the members that a value has. -/
def written : Json → List String
  | .object ms => ms.map Prod.fst
  | _ => []

/-- What is not written of settings is as it is by default, and what is written may be otherwise. -/
structure OmitsDefaults (c : Config) : Prop where
  timeout : "schema_fetch_timeout_secs" ∈ written c.toJson
  rules : "rules" ∈ written c.toJson ↔ c.rules ≠ ({} : Config).rules
  enabled : ∀ e ∈ c.rules.entries, "enabled" ∈ written e.2.toJson
  severity : ∀ e ∈ c.rules.entries,
    "severity" ∈ written e.2.toJson ↔ e.2.severity ≠ ({} : RuleSettings).severity
  schemaUrls : ∀ e ∈ c.rules.entries,
    "schema_urls" ∈ written e.2.toJson ↔ e.2.schemaUrls ≠ ({} : RuleSettings).schemaUrls
  urls : ∀ e ∈ c.rules.entries, ∀ dialect : Dialect,
    dialect.name ∈ e.2.schemaUrls.members.map Prod.fst ↔ e.2.schemaUrls.get? dialect ≠ none

theorem mem_memberUnless {absent : Bool} {name other : String} {v : Json} :
    other ∈ (memberUnless absent name v).map Prod.fst ↔ absent = false ∧ other = name := by
  cases absent <;> simp [memberUnless]

theorem omitsDefaults (c : Config) : OmitsDefaults c where
  timeout := by simp [written,toJson]
  rules := by
    have empty : c.rules.entries.isEmpty = true ↔ c.rules = .empty :=
      ⟨fun none => RuleTable.eq_empty (List.isEmpty_iff.mp none),fun same => by rw [same]; rfl⟩
    simp [written,toJson,mem_memberUnless,← empty]
  enabled := by
    intro e _
    simp [written,RuleSettings.toJson]
  severity := by
    intro e _
    cases own : e.2.severity <;> simp [written,RuleSettings.toJson,mem_memberUnless,own]
  schemaUrls := by
    intro e _
    cases own : e.2.severity <;>
      simp [written,RuleSettings.toJson,mem_memberUnless,own,← members_isEmpty_iff]
  urls := by
    intro e _ dialect
    rcases e.2.schemaUrls with ⟨_ | _,_ | _⟩ <;> cases dialect <;>
      simp [SchemaUrls.members,Dialect.all,SchemaUrls.get?,Dialect.name]

/-- Settings survive being written and read back: whatever document holds what is written of them is
read as the same settings, so they configure every registry alike and give the same URLs. Reading
knows all fields that are written and no others, inside of the rules too, and what is left out has its
default. -/
theorem read_written (c : Config) :
    (∃ d : LoadedDocument, d.holds c.toJson = true) ∧
    (∀ d : LoadedDocument, d.holds c.toJson = true → ∃ back, ofDocument d = .ok back ∧ back = c ∧
      (∀ r : Registry, (r.configure back).1.entries = (r.configure c).1.entries ∧
        (r.configure back).2 = (r.configure c).2) ∧
      ∀ dialect, Remote.urlFor back.schemaUrls dialect = Remote.urlFor c.schemaUrls dialect) ∧
    (∀ path text : String, (LoadedDocument.ofText text.toList).holds c.toJson = true →
      text.toList.all Text.isBlank = false → Config.read path text = .ok c) ∧
    OmitsDefaults c ∧ (∀ fields, c.toJson = .object fields → FieldsKnown fields) ∧
    ∀ (d : LoadedDocument) (fields : List (String × Json)), d.holds (.object fields) = true →
      ¬ FieldsKnown fields → ∃ e, ofDocument d = .error e := by
  have reads (d : LoadedDocument) (held : d.holds c.toJson = true) : ofDocument d = .ok c :=
    ofDocument_written held
  obtain ⟨d,held⟩ := LoadedDocument.exists_holds c.toJson
  refine ⟨⟨d,held⟩,?_,?_,omitsDefaults c,?_,?_⟩
  · exact fun d held => ⟨c,reads d held,rfl,fun _ => ⟨rfl,rfl⟩,fun _ => rfl⟩
  · intro path text held some
    rw [Config.read,ofText_eq,if_neg (by simp [some]),reads _ held]
    rfl
  · intro fields same
    exact fieldsKnown_of_ofDocument (same ▸ held) (reads d held)
  · intro d fields held unknown
    cases read : ofDocument d with
    | error e => exact ⟨e,rfl⟩
    | ok back => exact absurd (fieldsKnown_of_ofDocument held read) unknown

/-- Settings with a default, a severity, and one URL of two. -/
def onlyOne : Config where
  schemaFetchTimeoutSecs := 30
  rules := ⟨[("101",{ schemaUrls := { openApi3 := some "http://localhost/openapi3.json" } }),
    ("172",{ enabled := false, severity := some .must })],by decide⟩

/-- The tree in several styles. -/
def onlyOneText : String :=
  "schema_fetch_timeout_secs: 30\nrules:\n  \"101\":\n    enabled: true\n    schema_urls: \x7b" ++
    "openapi3: 'http://localhost/openapi3.json'\x7d\n  '172':\n    enabled: false\n    severity: must\n"

/-- A rule with a field that no rule has. -/
def levelFields : List (String × Json) :=
  [("rules",.object [("a",.object [("level",.string "must")])])]

def levelText : String := "rules:\n  a:\n    level: must\n"

theorem read_written_styles :
    (LoadedDocument.ofText onlyOneText.toList).holds onlyOne.toJson = true ∧
    onlyOneText.toList.all Text.isBlank = false ∧
    Config.read "apilint.yml" onlyOneText = .ok onlyOne ∧
    (LoadedDocument.ofText levelText.toList).holds (.object levelFields) = true ∧
    ¬ FieldsKnown levelFields ∧
    ∃ e, ofDocument (.ofText levelText.toList) = .error e := by
  have held : (LoadedDocument.ofText onlyOneText.toList).holds onlyOne.toJson = true := by
    decide +kernel
  have some : onlyOneText.toList.all Text.isBlank = false := by decide +kernel
  have held' : (LoadedDocument.ofText levelText.toList).holds (.object levelFields) = true := by
    decide +kernel
  have unknown : ¬ FieldsKnown levelFields := by
    intro known
    have inner := known.2 _ List.mem_cons_self _ List.mem_cons_self _ rfl
    exact absurd (inner.1 _ List.mem_cons_self) (by decide)
  obtain ⟨_,_,reads,_,_,refuses⟩ := read_written onlyOne
  exact ⟨held,some,reads "apilint.yml" onlyOneText held some,held',unknown,
    refuses _ levelFields held' unknown⟩

end Config
end ApiReview
