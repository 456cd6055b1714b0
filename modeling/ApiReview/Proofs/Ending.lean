import ApiReview.CommandLine.Run
import ApiReview.Proofs.Refusal
import ApiReview.Proofs.Success

/-! How a run ends. What can hinder a run is said of the files alone; where nothing does, the gravest
violation of the report decides, and not the form that the report is written in. -/
namespace ApiReview

namespace Severity

theorem le_max_iff {t a b : Severity} : t ≤ a.max b ↔ t ≤ a ∨ t ≤ b := by
  rw [max]
  split
  · next less =>
    constructor
    · exact .inr
    · rintro (low | high)
      · exact Nat.le_trans low less
      · exact high
  · next more =>
    change ¬ a.rank ≤ b.rank at more
    change t.rank ≤ a.rank ↔ t.rank ≤ a.rank ∨ t.rank ≤ b.rank
    omega

end Severity

namespace Report

/-- The gravest severity so far reaches a threshold exactly if one of those that were met does. -/
theorem foldl_max_iff (threshold : Severity) (violations : List Violation)
    (gravest : Option Severity) :
    (violations.foldl (fun m v => some (m.elim v.severity (·.max v.severity))) gravest).any
        (threshold ≤ ·) = true ↔
      gravest.any (threshold ≤ ·) = true ∨ ∃ v ∈ violations, threshold ≤ v.severity := by
  induction violations generalizing gravest with
  | nil => simp
  | cons v rest ih =>
    rw [List.foldl_cons,ih]
    cases gravest <;> simp [Severity.le_max_iff,or_assoc]

theorem hasAtLeast_iff {r : Report} {threshold : Severity} :
    r.hasAtLeast threshold = true ↔ ∃ v ∈ r.violations, threshold ≤ v.severity := by
  rw [hasAtLeast,maxSeverity?,foldl_max_iff]
  simp

end Report

namespace Registry

/-- The built-in rules take every configuration that names none but their ids. -/
theorem builtins_accepts_iff {server : Remote.Server} {cache : Remote.Cache} {config : Config} :
    (∃ r, builtins server cache config = .ok r) ↔
      ∀ id ∈ config.ids, id ∈ [UseOpenApi.id,MediaTypes.rule.id] := by
  have refused : (∃ id, ((plainBuiltins server config.schemaUrls cache).configure config).2 = some id) ↔
      ∃ id ∈ config.ids, id ∉ [UseOpenApi.id,MediaTypes.rule.id] := configure_refused_iff
  unfold builtins
  split
  · next accepted =>
    rw [accepted] at refused
    simpa [Decidable.or_iff_not_imp_left] using refused
  · next id rejected =>
    rw [rejected] at refused
    simpa using refused

end Registry

namespace CommandLine

namespace Arguments

variable (read : String → Id (Except FileError ByteArray))

/-- What a run is configured with: the settings of the file that is named, or the defaults. -/
inductive Configured (a : Arguments) : Config → Prop where
  | defaults : a.config = none → Configured a {}
  | file {path text : String} {config : Config} : a.config = some path →
      Files.decode (read path) = .ok text → Config.ofText text = .ok config → Configured a config

/-- Why a run cannot come to a report. -/
inductive Hindered (a : Arguments) : Prop where
  | configUnreadable {path : String} {e : FileError} : a.config = some path →
      Files.decode (read path) = .error e → Hindered a
  | configMalformed {path text : String} {e : Yaml.Error} : a.config = some path →
      Files.decode (read path) = .ok text → Config.ofText text = .error e → Hindered a
  | unknownRule {config : Config} {id : String} : a.Configured read config → id ∈ config.ids →
      id ∉ [UseOpenApi.id,MediaTypes.rule.id] → Hindered a
  | documentUnreadable {e : FileError} : Files.decode (read a.file) = .error e → Hindered a
  | documentMalformed {text : String} {e : DocumentError} : Files.decode (read a.file) = .ok text →
      Document.read text = .error e → Hindered a

/-- The rules of a run, as its configuration has them. -/
def rules (server : Remote.Server) (a : Arguments) : Except LintError Registry :=
  (Id.run (a.readConfig read)).bind (Registry.builtins server .empty)

/-- The description that a run is about. -/
def description (a : Arguments) : Except LintError Document :=
  ((Files.decode (read a.file)).mapError (.documentFile a.file)).bind fun text =>
    (Document.read text).mapError .malformedDocument

section
variable {read} {server : Remote.Server} {a : Arguments}

theorem report_eq : Id.run (a.report read server) =
    (a.rules read server).bind fun registry => (a.description read).map registry.lint := by
  have lint (registry : Registry) :
      ((Files.decode (read a.file)).mapError (.documentFile a.file)).bind registry.lintText =
        (a.description read).map registry.lint := by
    unfold description
    cases (Files.decode (read a.file)).mapError (LintError.documentFile a.file) <;> rfl
  unfold report rules
  cases a.readConfig read with
  | error e => rfl
  | ok config =>
    simp only [Id.run,bind,Except.bind]
    cases Registry.builtins server .empty config with
    | error e => rfl
    | ok registry => exact lint registry

theorem readConfig_none (absent : a.config = none) : Id.run (a.readConfig read) = .ok {} := by
  rw [readConfig,absent]
  rfl

theorem readConfig_some {path : String} (named : a.config = some path) :
    Id.run (a.readConfig read) = match Files.decode (read path) with
      | .ok text => Config.read path text
      | .error .notFound => .error (.configNotFound path)
      | .error e => .error (.configFile e) := by
  rw [readConfig,named]
  rfl

theorem readConfig_iff {config : Config} :
    Id.run (a.readConfig read) = .ok config ↔ a.Configured read config := by
  constructor
  · intro done
    cases named : a.config with
    | none =>
      rw [readConfig_none named] at done
      obtain rfl := Except.ok.inj done
      exact .defaults named
    | some path =>
      rw [readConfig_some named] at done
      split at done
      · next text decoded => exact .file named decoded (Success.mapError_iff.mp done)
      · cases done
      · cases done
  · intro configured
    cases configured with
    | defaults absent => exact readConfig_none absent
    | file named decoded parsed =>
      rw [readConfig_some named,decoded]
      exact Success.mapError_iff.mpr parsed

theorem rules_iff {registry : Registry} : a.rules read server = .ok registry ↔
    ∃ config, a.Configured read config ∧ Registry.builtins server .empty config = .ok registry := by
  simp only [← readConfig_iff]
  exact Success.bind_iff

theorem description_iff {d : Document} : a.description read = .ok d ↔
    ∃ text, Files.decode (read a.file) = .ok text ∧ Document.read text = .ok d := by
  refine Success.bind_iff.trans ?_
  simp only [Success.mapError_iff]

theorem Configured.unique {one two : Config} (first : a.Configured read one)
    (second : a.Configured read two) : one = two := by
  have same := (readConfig_iff.mpr first).symm.trans (readConfig_iff.mpr second)
  exact Except.ok.inj same

theorem configured_or_hindered (read : String → Id (Except FileError ByteArray)) (a : Arguments) :
    (∃ config, a.Configured read config) ∨ a.Hindered read := by
  cases named : a.config with
  | none => exact .inl ⟨{},.defaults named⟩
  | some path =>
    cases decoded : Files.decode (read path) with
    | error e => exact .inr (.configUnreadable named decoded)
    | ok text =>
      cases parsed : Config.ofText text with
      | error e => exact .inr (.configMalformed named decoded parsed)
      | ok config => exact .inl ⟨config,.file named decoded parsed⟩

/-- A run is hindered exactly if its rules or its description do not come about. -/
theorem hindered_iff (server : Remote.Server) : a.Hindered read ↔
    ¬ ∃ registry d, a.rules read server = .ok registry ∧ a.description read = .ok d := by
  constructor
  · rintro hindered ⟨registry,d,configured,described⟩
    obtain ⟨config,settled,accepted⟩ := rules_iff.mp configured
    obtain ⟨text,decoded,parsed⟩ := description_iff.mp described
    have done := readConfig_iff.mpr settled
    cases hindered with
    | @configUnreadable path e named failed =>
      rw [readConfig_some named,failed] at done
      cases e <;> cases done
    | configMalformed named readable failed =>
      rw [readConfig_some named,readable] at done
      rw [Success.mapError_iff.mp done] at failed
      cases failed
    | unknownRule again named unknown =>
      obtain rfl := settled.unique again
      exact unknown (Registry.builtins_accepts_iff.mp ⟨registry,accepted⟩ _ named)
    | documentUnreadable failed =>
      rw [decoded] at failed
      cases failed
    | documentMalformed readable failed =>
      obtain rfl := Except.ok.inj (decoded.symm.trans readable)
      rw [parsed] at failed
      cases failed
  · intro never
    rcases configured_or_hindered read a with ⟨config,settled⟩ | hindered
    · by_cases known : ∀ id ∈ config.ids, id ∈ [UseOpenApi.id,MediaTypes.rule.id]
      · obtain ⟨registry,accepted⟩ := Registry.builtins_accepts_iff.mpr known
        have configured := rules_iff.mpr ⟨config,settled,accepted⟩
        cases decoded : Files.decode (read a.file) with
        | error e => exact .documentUnreadable decoded
        | ok text =>
          cases parsed : Document.read text with
          | error e => exact .documentMalformed decoded parsed
          | ok d =>
            exact absurd ⟨registry,d,configured,description_iff.mpr ⟨text,decoded,parsed⟩⟩ never
      · obtain ⟨id,unknown⟩ := Classical.not_forall.mp known
        obtain ⟨named,unknown⟩ := Classical.not_imp.mp unknown
        exact .unknownRule settled named unknown
    · exact hindered

theorem report_ok_iff {r : Report} : Id.run (a.report read server) = .ok r ↔
    ∃ registry d, a.rules read server = .ok registry ∧ a.description read = .ok d ∧
      registry.lint d = r := by
  rw [report_eq]
  constructor
  · intro done
    obtain ⟨registry,configured,done⟩ := Success.bind_iff.mp done
    obtain ⟨d,described,same⟩ := Success.map_iff.mp done
    exact ⟨registry,d,configured,described,same⟩
  · rintro ⟨registry,d,configured,described,same⟩
    exact Success.bind_iff.mpr ⟨registry,configured,Success.map_iff.mpr ⟨d,described,same⟩⟩

theorem hindered_iff_error (server : Remote.Server) : a.Hindered read ↔
    ∃ e, Id.run (a.report read server) = .error e := by
  rw [hindered_iff server]
  cases done : Id.run (a.report read server) with
  | error e =>
    refine ⟨fun _ => ⟨e,rfl⟩,?_⟩
    rintro _ ⟨registry,d,configured,described⟩
    rw [report_ok_iff.mpr ⟨registry,d,configured,described,rfl⟩] at done
    cases done
  | ok r =>
    obtain ⟨registry,d,configured,described,_⟩ := report_ok_iff.mp done
    constructor
    · intro never
      exact absurd ⟨registry,d,configured,described⟩ never
    · rintro ⟨e,failed⟩
      cases failed

end

/-- A report gives the exit code by its violations alone. -/
theorem exitCode_of_report (color : Bool) (a : Arguments) (r : Report) :
    (a.outcome color (.ok r)).exitCode =
      if ∃ v ∈ r.violations, a.failOn ≤ v.severity then 1 else 0 := by
  by_cases grave : ∃ v ∈ r.violations, a.failOn ≤ v.severity
  · rw [if_pos grave,outcome,Report.hasAtLeast_iff.mpr grave]
    rfl
  · have light : r.hasAtLeast a.failOn = false :=
      Bool.eq_false_iff.mpr fun reached => grave (Report.hasAtLeast_iff.mp reached)
    rw [if_neg grave,outcome,light]
    rfl

/-- A report is written in the form that is asked for, whatever its violations. -/
theorem output_human {a : Arguments} (color : Bool) (r : Report) (human : a.format = .human) :
    (a.outcome color (.ok r)).output = Report.Human.text color r := by
  rw [outcome,Outcome.output,write,human]

theorem output_json {a : Arguments} (color : Bool) (r : Report) (json : a.format = .json) :
    (a.outcome color (.ok r)).output = Report.Machine.text r := by
  rw [outcome,Outcome.output,write,json]

section
variable {read} {server : Remote.Server} {color : Bool} {a : Arguments}

theorem run_eq : Id.run (a.run read server color) =
    a.outcome color (Id.run (a.report read server)) := rfl

theorem exitCode_two_iff : (Id.run (a.run read server color)).exitCode = 2 ↔ a.Hindered read := by
  rw [run_eq,hindered_iff_error server]
  cases Id.run (a.report read server) with
  | error e => exact ⟨fun _ => ⟨e,rfl⟩,fun _ => rfl⟩
  | ok r =>
    rw [exitCode_of_report]
    constructor
    · intro two
      split at two <;> cases two
    · rintro ⟨e,failed⟩
      cases failed

theorem output_of_hindered (hindered : a.Hindered read) :
    (Id.run (a.run read server color)).output = "" := by
  obtain ⟨e,failed⟩ := (hindered_iff_error server).mp hindered
  rw [run_eq,failed]
  rfl

/-- Nothing but the files and the threshold counts for the exit code. -/
theorem exitCode_congr {b : Arguments} {colored : Bool} (file : b.file = a.file)
    (config : b.config = a.config) (failOn : b.failOn = a.failOn) :
    (Id.run (b.run read server colored)).exitCode = (Id.run (a.run read server color)).exitCode := by
  have reports : Id.run (b.report read server) = Id.run (a.report read server) := by
    cases a
    cases b
    subst file config
    rfl
  rw [run_eq,run_eq,reports]
  cases Id.run (a.report read server) with
  | error e => rfl
  | ok r => rw [exitCode_of_report,exitCode_of_report,failOn]

theorem exitCode_antitone {threshold : Severity} (higher : a.failOn ≤ threshold) :
    (Id.run ({ a with failOn := threshold }.run read server color)).exitCode ≤
      (Id.run (a.run read server color)).exitCode := by
  have reports : Id.run ({ a with failOn := threshold }.report read server) =
      Id.run (a.report read server) := rfl
  rw [run_eq,run_eq,reports]
  cases Id.run (a.report read server) with
  | error e => exact Nat.le_refl 2
  | ok r =>
    rw [exitCode_of_report,exitCode_of_report]
    by_cases grave : ∃ v ∈ r.violations, threshold ≤ v.severity
    · obtain ⟨v,inside,reached⟩ := grave
      have lower : ∃ v ∈ r.violations, a.failOn ≤ v.severity :=
        ⟨v,inside,Nat.le_trans higher reached⟩
      rw [if_pos lower]
      split <;> omega
    · rw [if_neg grave]
      exact Nat.zero_le _

end

/-- The exit code is two exactly if the configuration or the description cannot be read, or a rule is
configured that does not exist, and then nothing is written. Otherwise the report is written for
people or as JSON, whichever is asked for, and the exit code is one if a violation reaches the
threshold, else zero. So neither the form nor what else is in the report counts, and a higher
threshold never gives a higher exit code. -/
theorem exitCode_decided (server : Remote.Server) (color : Bool) (a : Arguments) :
    let outcome := Id.run (a.run read server color)
    (outcome.exitCode = 2 ↔ a.Hindered read) ∧
    (a.Hindered read → outcome.output = "") ∧
    (¬ a.Hindered read → ∃ config registry text d, a.Configured read config ∧
      Registry.builtins server .empty config = .ok registry ∧
      Files.decode (read a.file) = .ok text ∧ Document.read text = .ok d ∧
      (a.format = .human → outcome.output = Report.Human.text color (registry.lint d)) ∧
      (a.format = .json → outcome.output = Report.Machine.text (registry.lint d)) ∧
      outcome.exitCode =
        if ∃ v ∈ (registry.lint d).violations, a.failOn ≤ v.severity then 1 else 0) ∧
    (∀ (b : Arguments) (colored : Bool),
      b.file = a.file → b.config = a.config → b.failOn = a.failOn →
        (Id.run (b.run read server colored)).exitCode = outcome.exitCode) ∧
    (∀ r s : Report, r.violations = s.violations →
      (a.outcome color (.ok r)).exitCode = (a.outcome color (.ok s)).exitCode) ∧
    ∀ threshold, a.failOn ≤ threshold →
      (Id.run ({ a with failOn := threshold }.run read server color)).exitCode ≤
        outcome.exitCode := by
  intro outcome
  refine ⟨exitCode_two_iff,output_of_hindered,?_,?_,?_,?_⟩
  · intro free
    cases done : Id.run (a.report read server) with
    | error e => exact absurd ((hindered_iff_error server).mpr ⟨e,done⟩) free
    | ok r =>
      have same : outcome = a.outcome color (.ok r) := run_eq.trans (congrArg _ done)
      obtain ⟨registry,d,configured,described,rfl⟩ := report_ok_iff.mp done
      obtain ⟨config,settled,accepted⟩ := rules_iff.mp configured
      obtain ⟨text,decoded,parsed⟩ := description_iff.mp described
      rw [same]
      exact ⟨config,registry,text,d,settled,accepted,decoded,parsed,output_human color _,
        output_json color _,exitCode_of_report color a _⟩
  · intro b colored file config failOn
    exact exitCode_congr file config failOn
  · intro r s violations
    rw [exitCode_of_report,exitCode_of_report,violations]
  · intro threshold higher
    exact exitCode_antitone higher

end Arguments
end CommandLine
end ApiReview
