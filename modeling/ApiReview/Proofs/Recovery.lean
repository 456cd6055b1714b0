import ApiReview.Lint.Report.Machine
import ApiReview.Proofs.Written

/-! Reports recovered from their JSON text. The text is read back as the value that was written, and a
reader of its members gives the report, so no two reports have one text. -/
namespace ApiReview
namespace Report

/-- The positions and counts of a report are words of 64 bits. -/
structure Fits (r : Report) : Prop where
  positions : ∀ v ∈ r.violations, ∀ i, .index i ∈ v.pointer.segments → i < twoTo 64
  counts : ∀ s ∈ r.rules, ∀ n, s.outcome = .violated n → n < twoTo 64
  violations : r.violations.length < twoTo 64
  diagnostics : r.diagnostics.length < twoTo 64

theorem count_le (r : Report) (s : Severity) : r.count s ≤ r.violations.length :=
  List.length_filter_le _ _

/-- Every violation is counted under one severity. -/
theorem length_eq_counts (r : Report) :
    r.violations.length = r.count .must + r.count .should + r.count .may + r.count .hint := by
  obtain ⟨violations,diagnostics,rules⟩ := r
  simp only [count]
  induction violations with
  | nil => rfl
  | cons v rest ih =>
    rw [List.length_cons,ih]
    cases same : v.severity <;> simp [same] <;> omega

namespace Machine

/-! What is written is readable: whole numbers, names that differ, and four containers inside one
another at most. -/

theorem count_eq {n : Nat} (word : n < twoTo 64) : ∃ fits, count n = .number (.integer n fits) :=
  Json.int_word word

section
variable {depth : Nat}

theorem readable_count {n : Nat} (word : n < twoTo 64) : Json.Readable depth (count n) := by
  obtain ⟨fits,same⟩ := count_eq word
  rw [same]
  exact ⟨⟨n,fits,rfl⟩,trivial,Nat.zero_le depth⟩

theorem readable_string (s : String) : Json.Readable depth (.string s) :=
  ⟨trivial,trivial,Nat.zero_le depth⟩

theorem readable_array {vs : List Json} (each : ∀ v ∈ vs, Json.Readable depth v) :
    Json.Readable (depth + 1) (.array vs) := by
  refine ⟨Json.wholeItems_iff.mpr fun v member => (each v member).whole,
    Json.distinctItems_iff.mpr fun v member => (each v member).distinct,Nat.succ_le_succ ?_⟩
  induction vs with
  | nil => exact Nat.zero_le depth
  | cons v vs ih =>
    rw [List.forall_mem_cons] at each
    exact Nat.max_le.mpr ⟨each.1.within,ih each.2⟩

theorem readable_object {ms : List (String × Json)} (apart : (ms.map Prod.fst).Nodup)
    (each : ∀ m ∈ ms, Json.Readable depth m.2) : Json.Readable (depth + 1) (.object ms) := by
  refine ⟨Json.wholeMembers_iff.mpr fun m member => (each m member).whole,
    ⟨apart,Json.distinctMembers_iff.mpr fun m member => (each m member).distinct⟩,
    Nat.succ_le_succ ?_⟩
  clear apart
  induction ms with
  | nil => exact Nat.zero_le depth
  | cons m ms ih =>
    rw [List.forall_mem_cons] at each
    exact Nat.max_le.mpr ⟨each.1.within,ih each.2⟩

theorem readable_segments {p : Pointer} (words : ∀ i, .index i ∈ p.segments → i < twoTo 64) :
    Json.Readable (depth + 1) (segments p) := by
  apply readable_array
  intro v member
  obtain ⟨s,inside,rfl⟩ := List.mem_map.mp member
  cases s with
  | key name => exact readable_string name
  | index i => exact readable_count (words i inside)

theorem readable_violation {v : Violation}
    (words : ∀ i, .index i ∈ v.pointer.segments → i < twoTo 64) :
    Json.Readable (depth + 2) (violation v) := by
  apply readable_object (by simp)
  simp only [List.forall_mem_cons]
  exact ⟨readable_string _,readable_string _,readable_string _,readable_string _,
    readable_segments words,by simp⟩

theorem readable_diagnostic (d : Diagnostic) : Json.Readable (depth + 1) (diagnostic d) := by
  apply readable_object (by simp)
  simp only [List.forall_mem_cons]
  exact ⟨readable_string _,readable_string _,readable_string _,by simp⟩

theorem readable_outcome {o : RuleOutcome} (word : ∀ n, o = .violated n → n < twoTo 64) :
    Json.Readable (depth + 1) (outcome o) := by
  cases o with
  | violated n =>
    apply readable_object (by simp)
    simp only [List.forall_mem_cons]
    exact ⟨readable_string _,readable_count (word n rfl),by simp⟩
  | _ =>
    apply readable_object (by simp)
    simp only [List.forall_mem_cons]
    exact ⟨readable_string _,by simp⟩

theorem readable_rule {s : RuleSummary} (word : ∀ n, s.outcome = .violated n → n < twoTo 64) :
    Json.Readable (depth + 2) (rule s) := by
  apply readable_object (by simp)
  simp only [List.forall_mem_cons]
  exact ⟨readable_string _,readable_string _,readable_outcome word,by simp⟩

theorem readable_summary {r : Report} (fits : r.Fits) : Json.Readable (depth + 1) (summary r) := by
  have word (s : Severity) : r.count s < twoTo 64 := Nat.lt_of_le_of_lt (r.count_le s) fits.violations
  apply readable_object (by simp)
  simp only [List.forall_mem_cons]
  exact ⟨readable_count fits.violations,readable_count (word _),readable_count (word _),
    readable_count (word _),readable_count (word _),readable_count fits.diagnostics,by simp⟩

theorem readable_json {r : Report} (fits : r.Fits) : Json.Readable (depth + 4) (json r) := by
  apply readable_object (by simp)
  simp only [List.forall_mem_cons]
  refine ⟨?_,?_,?_,readable_summary fits,by simp⟩
  all_goals
    apply readable_array
    intro v member
  · obtain ⟨w,inside,rfl⟩ := List.mem_map.mp member
    exact readable_violation (fits.positions w inside)
  · obtain ⟨d,inside,rfl⟩ := List.mem_map.mp member
    exact readable_diagnostic d
  · obtain ⟨s,inside,rfl⟩ := List.mem_map.mp member
    exact readable_rule (fits.counts s inside)

end

theorem read_text {r : Report} (fits : r.Fits) : Json.read (text r) = .ok (json r) := by
  have readable : Json.Readable Json.depthLimit (json r) := readable_json fits
  have blank : ∀ c ∈ ['\n'], Json.isBlank c = true := List.forall_mem_singleton.mpr rfl
  exact Json.read_lines ⟨2,false⟩ readable blank

/-! A reader of what was written. It goes by the names of members and takes the place of a violation
from its segments, where names and positions differ. -/

/-- The value of a member, read in some way. -/
def field? {α : Type} (name : String) (read : Json → Option α) (v : Json) : Option α :=
  (v.get? name).bind read

def list? {α : Type} (item : Json → Option α) (v : Json) : Option (List α) :=
  v.items?.bind fun items => items.mapM item

/-- A whole number that is not below zero. -/
def number? : Json → Option Nat
  | .number (.integer (.ofNat n) _) => some n
  | _ => none

def severity? (v : Json) : Option Severity := v.string?.bind Severity.ofName?

def segment? : Json → Option Segment
  | .string name => some (.key name)
  | v => (number? v).map .index

def pointer? (v : Json) : Option Pointer := (list? segment? v).map .mk

def violation? (v : Json) : Option Violation := do
  return {
    ruleId := ← field? "rule_id" Json.string? v
    severity := ← field? "severity" severity? v
    description := ← field? "description" Json.string? v
    pointer := ← field? "segments" pointer? v }

def diagnostic? (v : Json) : Option Diagnostic := do
  return {
    ruleId := ← field? "rule_id" Json.string? v
    check := ← field? "check" Json.string? v
    message := ← field? "message" Json.string? v }

/-- An outcome by its name; the only one that has a count is read with it. -/
def outcome? (v : Json) : Option RuleOutcome := do
  let status ← field? "status" Json.string? v
  if status = "violated" then (field? "count" number? v).map .violated
  else [.passed,.notApplicable,.failed,.disabled].find? fun o : RuleOutcome => o.name = status

def rule? (v : Json) : Option RuleSummary := do
  return {
    ruleId := ← field? "rule_id" Json.string? v
    title := ← field? "title" Json.string? v
    outcome := ← field? "outcome" outcome? v }

def report? (v : Json) : Option Report := do
  return {
    violations := ← field? "violations" (list? violation?) v
    diagnostics := ← field? "diagnostics" (list? diagnostic?) v
    rules := ← field? "rules" (list? rule?) v }

/-- The numbers of a summary. -/
structure Totals where
  total : Nat
  must : Nat
  should : Nat
  may : Nat
  hint : Nat
  toolingErrors : Nat

def totals? (v : Json) : Option Totals := do
  return {
    total := ← field? "total" number? v
    must := ← field? "must" number? v
    should := ← field? "should" number? v
    may := ← field? "may" number? v
    hint := ← field? "hint" number? v
    toolingErrors := ← field? "tooling_errors" number? v }

theorem field?_cons {α : Type} (name : String) (read : Json → Option α) (k : String) (v : Json)
    (rest : List (String × Json)) : field? name read (.object ((k,v) :: rest)) =
      if k = name then read v else field? name read (.object rest) := by
  simp only [field?,Json.get?,Json.lookup]
  split <;> rfl

theorem list?_map {α : Type} {write : α → Json} {read : Json → Option α} {list : List α}
    (each : ∀ a ∈ list, read (write a) = some a) :
    list? read (.array (list.map write)) = some list := by
  simp only [list?,Json.items?,Option.bind_some]
  induction list with
  | nil => rfl
  | cons a rest ih =>
    rw [List.forall_mem_cons] at each
    rw [List.map_cons,List.mapM_cons,each.1,ih each.2]
    rfl

theorem number?_count {n : Nat} (word : n < twoTo 64) : number? (count n) = some n := by
  obtain ⟨fits,same⟩ := count_eq word
  rw [same]
  rfl

theorem pointer?_segments {p : Pointer} (words : ∀ i, .index i ∈ p.segments → i < twoTo 64) :
    pointer? (segments p) = some p := by
  have each : ∀ s ∈ p.segments, segment? (segment s) = some s := by
    intro s inside
    cases s with
    | key name => rfl
    | index i =>
      have word := words i inside
      obtain ⟨fits,same⟩ := count_eq word
      rw [segment,same]
      rfl
  rw [pointer?,segments,list?_map each]
  rfl

theorem severity?_name (s : Severity) : severity? (.string s.name) = some s := by
  cases s <;> rfl

theorem violation?_violation {v : Violation}
    (words : ∀ i, .index i ∈ v.pointer.segments → i < twoTo 64) :
    violation? (violation v) = some v := by
  simp [violation?,violation,field?_cons,Json.string?,severity?_name,
    pointer?_segments words]

theorem diagnostic?_diagnostic (d : Diagnostic) : diagnostic? (diagnostic d) = some d := by
  simp [diagnostic?,diagnostic,field?_cons,Json.string?]

theorem outcome?_outcome {o : RuleOutcome} (word : ∀ n, o = .violated n → n < twoTo 64) :
    outcome? (outcome o) = some o := by
  cases o with
  | violated n =>
    simp [outcome?,outcome,RuleOutcome.name,field?_cons,Json.string?,
      number?_count (word n rfl)]
  | _ => rfl

theorem rule?_rule {s : RuleSummary} (word : ∀ n, s.outcome = .violated n → n < twoTo 64) :
    rule? (rule s) = some s := by
  simp [rule?,rule,field?_cons,Json.string?,outcome?_outcome word]

theorem report?_json {r : Report} (fits : r.Fits) : report? (json r) = some r := by
  have violations : list? violation? (.array (r.violations.map violation)) = some r.violations :=
    list?_map fun v inside => violation?_violation (fits.positions v inside)
  have diagnostics : list? diagnostic? (.array (r.diagnostics.map diagnostic)) =
      some r.diagnostics := list?_map fun d _ => diagnostic?_diagnostic d
  have rules : list? rule? (.array (r.rules.map rule)) = some r.rules :=
    list?_map fun s inside => rule?_rule (fits.counts s inside)
  simp [report?,json,field?_cons,violations,diagnostics,rules]

def totals (r : Report) : Totals where
  total := r.violations.length
  must := r.count .must
  should := r.count .should
  may := r.count .may
  hint := r.count .hint
  toolingErrors := r.diagnostics.length

theorem totals?_summary {r : Report} (fits : r.Fits) : totals? (summary r) = some (totals r) := by
  have word (s : Severity) : number? (count (r.count s)) = some (r.count s) :=
    number?_count (Nat.lt_of_le_of_lt (r.count_le s) fits.violations)
  simp [totals?,totals,summary,field?_cons,word,number?_count fits.violations,
    number?_count fits.diagnostics]

/-- The JSON text of a report determines it. It is JSON, the report is read off its value, every
violation has the text of its place beside the segments, and the summary counts the violations, in
all and by severity, and the checks that could not run. -/
theorem text_determines {r : Report} (fits : r.Fits) : ∃ v, Json.read (text r) = .ok v ∧
    report? v = some r ∧
    (∃ items, (v.get? "violations").bind Json.items? = some items ∧
      items.length = r.violations.length ∧ ∀ item ∈ items, ∃ p,
        field? "segments" pointer? item = some p ∧
        field? "pointer" Json.string? item = some p.text) ∧
    (∃ t, field? "summary" totals? v = some t ∧ t.total = r.violations.length ∧
      t.total = t.must + t.should + t.may + t.hint ∧
      t.must = r.count .must ∧ t.should = r.count .should ∧ t.may = r.count .may ∧
      t.hint = r.count .hint ∧ t.toolingErrors = r.diagnostics.length) ∧
    ∀ other : Report, other.Fits → text other = text r → other = r := by
  have back := read_text fits
  have counted : field? "summary" totals? (json r) = some (totals r) := by
    simpa [json,field?_cons] using totals?_summary fits
  refine ⟨json r,back,report?_json fits,⟨r.violations.map violation,rfl,by simp,?_⟩,
    ⟨_,counted,rfl,r.length_eq_counts,rfl,rfl,rfl,rfl,rfl⟩,?_⟩
  · intro item member
    obtain ⟨v,inside,rfl⟩ := List.mem_map.mp member
    exact ⟨v.pointer,pointer?_segments (fits.positions v inside),rfl⟩
  · intro other otherFits same
    have values : json other = json r := by
      have again := read_text otherFits
      rw [same,back] at again
      exact (Except.ok.inj again).symm
    have reports := report?_json otherFits
    rw [values,report?_json fits] at reports
    exact (Option.some.inj reports).symm

/-- A report with a name that looks like a position, a position, and characters that are escaped. -/
def mixed : Report where
  violations := [
    ⟨"172",.should,"a \"quoted\" word\n",⟨[.key "paths",.key "/a~b",.key "0"]⟩⟩,
    ⟨"101",.must,"",⟨[.key "produces",.index 0]⟩⟩]
  diagnostics := [⟨"172","validate","panicked"⟩]
  rules := [⟨"101","first",.violated 1⟩,⟨"172","second",.failed⟩]

theorem mixed_fits : mixed.Fits := by
  have one : 1 < twoTo 64 := by decide
  refine ⟨?_,?_,by decide,by decide⟩
  · intro v member i inside
    simp only [mixed,List.mem_cons,List.not_mem_nil,or_false] at member
    rcases member with rfl | rfl
    · simp at inside
    · obtain rfl : i = 0 := by simpa using inside
      decide
  · intro s member n counted
    simp only [mixed,List.mem_cons,List.not_mem_nil,or_false] at member
    rcases member with rfl | rfl
    · obtain rfl := RuleOutcome.violated.inj counted
      exact one
    · cases counted

theorem text_determines_mixed : mixed.Fits ∧
    ∃ v, Json.read (text mixed) = .ok v ∧ report? v = some mixed := by
  obtain ⟨v,done,rebuilt,_⟩ := text_determines mixed_fits
  exact ⟨mixed_fits,v,done,rebuilt⟩

end Machine
end Report
end ApiReview
