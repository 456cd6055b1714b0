import ApiReview.Proofs.Builtin
import ApiReview.Proofs.Written
import Mathlib.Data.List.Basic

/-! Descriptions and their JSON renderings. A tree is read back from its text without spaces, and of
all checks only the one on the format looks at a text. -/
namespace ApiReview

namespace Document

theorem read_compact {root : Json} (object : root.isObject = true) (whole : root.Whole)
    (distinct : root.Distinct) (within : root.depth ≤ Json.depthLimit) :
    read root.compact = .ok (.ofTree root) := by
  have json := Json.read_compact whole distinct within
  have brace : (Text.trimStart root.compact.toList).head? = some '{' := by
    cases root with
    | object ms =>
      have plain : Text.isBlank '{' = false := by
        simp [Text.isBlank,Text.Ranges.contains,Text.blankRanges]
      rw [Json.compact,String.toList_ofList,Json.chars,Text.trimStart]
      simp [plain]
    | _ => cases object
  simp only [read,readRoot,if_pos brace,json,if_pos object,ofTree]

end Document

/-- What is said of a schema begins with other words than what is said of the format. -/
theorem Remote.descriptionFor_ne (d : Dialect) (description : String) :
    descriptionFor d description ≠ "must use YAML format" := by
  intro same
  change "Does not match " ++ d.name ++ " schema: " ++ description = "must use YAML format" at same
  have first := congrArg (·.toList.head?) same
  simp at first

/-- Whether a violation says that a text is in another format. -/
def Violation.onFormat (v : Violation) : Bool :=
  v.ruleId = UseOpenApi.id && v.description = "must use YAML format"

/-- Reports that tell the same but for the format. -/
structure Report.Alike (one two : Report) : Prop where
  violations : one.violations.filter (!·.onFormat) = two.violations.filter (!·.onFormat)
  diagnostics : one.diagnostics = two.diagnostics
  mediaTypes : one.outcome? MediaTypes.rule.id = two.outcome? MediaTypes.rule.id

namespace Registry

/-- The violations that the check on the format finds. -/
def FindsFormat (r : Registry) (c : Context) (v : Violation) : Prop :=
  ∃ d ∈ r.due, d.check.name = "check_yaml_format" ∧ v ∈ d.violations c

variable {server : Remote.Server} {cache : Remote.Cache} {config : Config} {r : Registry}

theorem onFormat_iff (accepted : builtins server cache config = .ok r) {c : Context} {d : Due}
    (due : d ∈ r.due) {v : Violation} (member : v ∈ d.violations c) :
    v.onFormat = true ↔ d.check.name = "check_yaml_format" := by
  obtain ⟨f,found,rfl⟩ := List.mem_map.mp member
  obtain ⟨list,ran,inside⟩ := Due.mem_findings.mp found
  rcases builtins_due accepted due with ⟨entry,name⟩ | ⟨id,name,entry⟩ | ⟨id,name,_⟩
  · rw [Check.run,entry] at ran
    obtain ⟨_,done,same⟩ := Success.map_iff.mp ran
    cases same
    obtain ⟨_,_,rfl⟩ := Success.map_iff.mp (Success.mapError_iff.mp done)
    obtain ⟨g,_,rfl⟩ := List.mem_map.mp inside
    simp [Violation.onFormat,Remote.descriptionFor_ne,name]
  · rw [Check.run,entry] at ran
    cases ran
    unfold UseOpenApi.formatFinding? at inside
    split at inside
    · obtain rfl : f = ⟨"must use YAML format",.root⟩ := by simpa using inside
      simp [Violation.onFormat,id,name]
    · cases inside
  · simp [Violation.onFormat,id,name,MediaTypes.rule,UseOpenApi.id]

/-- What is found beside the format is found of the tree. -/
theorem run_ofTree (accepted : builtins server cache config = .ok r) {d : Due} (due : d ∈ r.due)
    (other : d.check.name ≠ "check_yaml_format") (document : Document) :
    d.check.run (.ofDocument (.ofTree document.root)) = d.check.run (.ofDocument document) := by
  rcases builtins_due accepted due with ⟨entry,_⟩ | ⟨_,name,_⟩ | ⟨_,_,entry⟩
  · simp only [Check.run,entry]
    rfl
  · exact absurd name other
  · simp only [Check.run,entry]
    rfl

theorem violations_ofTree (accepted : builtins server cache config = .ok r) {d : Due}
    (due : d ∈ r.due) (document : Document) :
    (d.violations (.ofDocument (.ofTree document.root))).filter (!·.onFormat) =
      (d.violations (.ofDocument document)).filter (!·.onFormat) := by
  by_cases format : d.check.name = "check_yaml_format"
  · have none (c : Context) : (d.violations c).filter (!·.onFormat) = [] :=
      List.filter_eq_nil_iff.mpr fun v member => by
        simp [(onFormat_iff accepted due member).mpr format]
    rw [none,none]
  · rw [Due.violations,Due.findings,run_ofTree accepted due format]
    rfl

theorem diagnostic_ofTree (accepted : builtins server cache config = .ok r) {d : Due}
    (due : d ∈ r.due) (document : Document) :
    d.diagnostic? (.ofDocument (.ofTree document.root)) = d.diagnostic? (.ofDocument document) := by
  rcases builtins_due accepted due with ⟨entry,_⟩ | ⟨_,_,entry⟩ | ⟨_,_,entry⟩
  all_goals
    simp only [Due.diagnostic?,Check.run,entry]
    try rfl

theorem outcome_ofTree (accepted : builtins server cache config = .ok r) (document : Document) :
    (r.lint (.ofTree document.root)).outcome? MediaTypes.rule.id =
      (r.lint document).outcome? MediaTypes.rule.id := by
  rw [lint,lint,outcome?_lintContext,outcome?_lintContext]
  cases found : r.get? MediaTypes.rule.id with
  | none => rfl
  | some e =>
    have rule := builtins_mediaTypes accepted found
    obtain ⟨_,enabled,override⟩ := e
    subst rule
    rfl

theorem lint_ofTree (accepted : builtins server cache config = .ok r) (document : Document) :
    (r.lint document).Alike (r.lint (.ofTree document.root)) := by
  refine ⟨?_,?_,(outcome_ofTree accepted document).symm⟩
  · have stages (stage : Stage) :
        (r.violationsAt (.ofDocument document) stage).filter (!·.onFormat) =
          (r.violationsAt (.ofDocument (.ofTree document.root)) stage).filter (!·.onFormat) := by
      rw [violationsAt,violationsAt,List.filter_flatMap,List.filter_flatMap]
      exact List.flatMap_congr fun d inside =>
        (violations_ofTree accepted (List.mem_filter.mp inside).1 document).symm
    rw [lint,lint,lintContext_violations,lintContext_violations,List.filter_append,
      List.filter_append,stages,stages]
  · rw [lint,lint,lintContext_diagnostics,lintContext_diagnostics]
    exact List.filterMap_congr fun d due => (diagnostic_ofTree accepted due document).symm

theorem onFormat_iff_finds (accepted : builtins server cache config = .ok r) {c : Context}
    {v : Violation} (reported : v ∈ (r.lintContext c).violations) :
    v.onFormat = true ↔ r.FindsFormat c v := by
  constructor
  · intro format
    simp only [lintContext_violations,violationsAt,List.mem_append,List.mem_flatMap,
      List.mem_filter] at reported
    rcases reported with ⟨d,⟨due,_⟩,member⟩ | ⟨d,⟨due,_⟩,member⟩
    all_goals exact ⟨d,due,(onFormat_iff accepted due member).mp format,member⟩
  · rintro ⟨d,due,name,member⟩
    exact (onFormat_iff accepted due member).mpr name

/-- A description with whole numbers, and with no more containers inside one another than the reader
follows, is read back from the JSON text of its tree. The two texts are reported alike but for the
format, which is what one check finds and no other. -/
theorem rendering_lints_alike {text : String} {d : Document} (done : Document.read text = .ok d)
    (whole : d.root.Whole) (within : d.root.depth ≤ Json.depthLimit) :
    ∃ d', Document.read (Document.ofTree d.root).source = .ok d' ∧ d'.root = d.root ∧
      d'.dialect = d.dialect ∧
      ∀ (server : Remote.Server) (cache : Remote.Cache) (config : Config) (r : Registry),
        builtins server cache config = .ok r →
        ∃ one two, r.lintText text = .ok one ∧
          r.lintText (Document.ofTree d.root).source = .ok two ∧ one.Alike two ∧
          (∀ v ∈ one.violations, v.onFormat = true ↔ r.FindsFormat (.ofDocument d) v) ∧
          ∀ v ∈ two.violations, v.onFormat = true ↔ r.FindsFormat (.ofDocument d') v := by
  obtain ⟨_,object,distinct⟩ := Document.read_distinct done
  have back := Document.read_compact object whole distinct within
  refine ⟨.ofTree d.root,back,rfl,rfl,fun server cache config r accepted => ?_⟩
  refine ⟨r.lint d,r.lint (.ofTree d.root),?_,?_,lint_ofTree accepted d,?_,?_⟩
  · rw [lintText,done]
    rfl
  · rw [lintText]
    exact congrArg (fun read => (Except.mapError LintError.malformedDocument read).map r.lint) back
  · exact fun v reported => onFormat_iff_finds accepted reported
  · exact fun v reported => onFormat_iff_finds accepted reported

/-- A name that is escaped, one that is empty, and a number below zero. -/
def namesText : String := "\"\\x01\": -1\n\"\": {paths: []}\n"

def namesRoot : Json := .object [("\x01",.int (-1)),("",.object [("paths",.array [])])]

theorem rendering_lints_alike_names : ∃ r d,
    builtins (fun _ => .unreachable) .empty {} = .ok r ∧
    Document.read namesText = .ok d ∧ d.root.Whole ∧ d.root.depth ≤ Json.depthLimit ∧
    ∃ one two, r.lintText namesText = .ok one ∧
      r.lintText (Document.ofTree d.root).source = .ok two ∧ one.Alike two := by
  have accepted : builtins (fun _ => .unreachable) .empty {} =
      .ok (plainBuiltins (fun _ => .unreachable) {} .empty) := rfl
  have done : Document.read namesText = .ok ⟨namesText,namesRoot⟩ :=
    Document.read_of_root (by decide +kernel)
  have whole : namesRoot.Whole := ⟨⟨-1,by decide,rfl⟩,⟨trivial,trivial⟩,trivial⟩
  have within : namesRoot.depth ≤ Json.depthLimit := by decide
  obtain ⟨_,_,_,_,alike⟩ := rendering_lints_alike done whole within
  obtain ⟨one,two,first,second,same,_⟩ := alike _ _ _ _ accepted
  exact ⟨_,_,accepted,done,whole,within,one,two,first,second,same⟩

end Registry
end ApiReview
