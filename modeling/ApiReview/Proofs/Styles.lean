import Mathlib.Data.List.Basic
import ApiReview.Lint.Report.Human
import ApiReview.Proofs.Recovery

/-! Reports for people, with and without styles. Styles are taken out of a text by what begins and
ends them, whatever they stand for; that leaves the text without styles, which is made of whole
lines. -/
namespace ApiReview.Report.Human

/-! Texts without their styles. -/

/-- What selects a style: numbers, and what divides them. -/
def isParameter (c : Char) : Bool := Decimal.isDigit c || c = ';'

/-- What stands behind the style that a text begins with. -/
def behindStyle? : List Char → Option (List Char)
  | '\x1b' :: '[' :: rest =>
    match rest.dropWhile isParameter with
    | 'm' :: behind => some behind
    | _ => none
  | _ => none

theorem behindStyle?_shorter {cs behind : List Char} (style : behindStyle? cs = some behind) :
    behind.length < cs.length := by
  unfold behindStyle? at style
  split at style
  · next rest =>
    split at style
    · next found =>
      cases style
      have inside := (List.dropWhile_suffix isParameter (l := rest)).length_le
      rw [found] at inside
      simp only [List.length_cons] at inside ⊢
      omega
    · cases style
  · cases style

/-- The text without the styles in it. -/
def withoutStyles : List Char → List Char
  | [] => []
  | c :: rest =>
    match style : behindStyle? (c :: rest) with
    | some behind =>
      have := behindStyle?_shorter style
      withoutStyles behind
    | none => c :: withoutStyles rest
termination_by cs => cs.length
decreasing_by
  · exact this
  · exact Nat.lt_succ_self _

section
variable {cs rest : List Char} {c : Char}

/-- A style is taken out whole. -/
theorem withoutStyles_style (parameters : List Char) (fine : parameters.all isParameter = true)
    (rest : List Char) :
    withoutStyles ('\x1b' :: '[' :: (parameters ++ 'm' :: rest)) = withoutStyles rest := by
  have ended : (parameters ++ 'm' :: rest).dropWhile isParameter = 'm' :: rest := by
    rw [List.dropWhile_append_of_pos (List.all_eq_true.mp fine)]
    rfl
  have style : behindStyle? ('\x1b' :: '[' :: (parameters ++ 'm' :: rest)) = some rest := by
    simp [behindStyle?,ended]
  rw [withoutStyles]
  split
  · next found => rw [style] at found; cases found; rfl
  · next none => rw [style] at none; cases none

theorem withoutStyles_cons (plain : c ≠ escape) : withoutStyles (c :: rest) = c :: withoutStyles rest := by
  have none : behindStyle? (c :: rest) = none := by
    unfold behindStyle?
    split
    · next same => exact absurd (List.cons.inj same).1 plain
    · rfl
  rw [withoutStyles]
  split
  · next found => rw [none] at found; cases found
  · rfl

theorem withoutStyles_append (plain : escape ∉ cs) (rest : List Char) :
    withoutStyles (cs ++ rest) = cs ++ withoutStyles rest := by
  induction cs with
  | nil => rfl
  | cons c cs ih =>
    obtain ⟨here,there⟩ := not_or.mp (mt List.mem_cons.mpr plain)
    rw [List.cons_append,withoutStyles_cons (Ne.symm here),ih there,List.cons_append]

theorem withoutStyles_plain (plain : escape ∉ cs) : withoutStyles cs = cs := by
  have whole := withoutStyles_append plain []
  rwa [List.append_nil,withoutStyles,List.append_nil] at whole

end

theorem escape_not_mem_name (s : Severity) : escape ∉ s.name.toList := by cases s <;> decide

/-- Of a severity the name is left. -/
theorem withoutStyles_severity (s : Severity) (rest : List Char) :
    withoutStyles (severity true s ++ rest) = severity false s ++ withoutStyles rest := by
  have opened (rest : List Char) : withoutStyles (openStyle s ++ rest) = withoutStyles rest := by
    cases s with
    | must => exact (withoutStyles_style ['3','1'] rfl _).trans (withoutStyles_style ['1'] rfl _)
    | should => exact (withoutStyles_style ['3','3'] rfl _).trans (withoutStyles_style ['1'] rfl _)
    | may => exact (withoutStyles_style ['3','6'] rfl _).trans (withoutStyles_style ['1'] rfl _)
    | hint => exact (withoutStyles_style ['1'] rfl _).trans (withoutStyles_style ['2'] rfl _)
  have closed : withoutStyles (closeStyle ++ rest) = withoutStyles rest :=
    withoutStyles_style ['0'] rfl rest
  rw [severity,if_pos rfl,List.append_assoc,List.append_assoc,opened,
    withoutStyles_append (escape_not_mem_name s),closed]
  rfl

/-! The lines of a report. -/

def headerLine (v : Violation) : String :=
  v.severity.name ++ "[" ++ v.ruleId ++ "]: " ++ v.description

def placeLine (v : Violation) : String := "  --> " ++ v.pointer.text

def diagnosticLine (d : Diagnostic) : String := "tooling error: " ++ d.text

def summaryLine (total : Nat) (listed : List (Severity × Nat)) : String :=
  "Found " ++ Decimal.text total ++ " violation(s): " ++
    ", ".intercalate (listed.map fun (s,n) => Decimal.text n ++ " " ++ s.name)

/-- The summary is there if there are violations. -/
def lines (r : Report) (listed : List (Severity × Nat)) : List String :=
  r.violations.flatMap (fun v => [headerLine v,placeLine v,""]) ++
    (r.diagnostics.map diagnosticLine ++
      if r.violations = [] then [] else [summaryLine r.violations.length listed])

/-- The severities that occur and how often they do, the gravest first; every violation is counted. -/
structure Totals (r : Report) (listed : List (Severity × Nat)) : Prop where
  ordered : listed.Pairwise fun p q => q.1 < p.1
  exact : ∀ s n, (s,n) ∈ listed ↔ n = r.count s ∧ 0 < n
  whole : (listed.map Prod.snd).sum = r.violations.length

theorem sum_filter_positive (list : List (Severity × Nat)) :
    ((list.filter fun p => 0 < p.2).map Prod.snd).sum = (list.map Prod.snd).sum := by
  induction list with
  | nil => rfl
  | cons p rest ih =>
    rw [List.filter_cons]
    split
    · rw [List.map_cons,List.map_cons,List.sum_cons,List.sum_cons,ih]
    · next none =>
      have zero : p.2 = 0 := by simpa using none
      rw [List.map_cons,List.sum_cons,ih,zero,Nat.zero_add]

theorem counts_totals (r : Report) : Totals r (counts r) where
  ordered := by
    have gravest : Severity.all.Pairwise fun s t => t < s := by decide
    exact (List.pairwise_map.mpr gravest).filter _
  exact := by
    intro s n
    have all : s ∈ Severity.all := by cases s <;> decide
    simp only [counts,List.mem_filter,List.mem_map,Prod.mk.injEq,decide_eq_true_eq]
    constructor
    · rintro ⟨⟨_,_,rfl,rfl⟩,some⟩
      exact ⟨rfl,some⟩
    · rintro ⟨rfl,some⟩
      exact ⟨⟨s,all,rfl,rfl⟩,some⟩
  whole := by
    rw [counts,sum_filter_positive,r.length_eq_counts]
    simp [Severity.all,Nat.add_assoc]

theorem toList_diagnosticLine (d : Diagnostic) :
    (diagnosticLine d).toList = "tooling error: ".toList ++ d.text.toList := String.toList_append

theorem chars_eq_lines (r : Report) :
    chars false r = (lines r (counts r)).flatMap fun line => line.toList ++ ['\n'] := by
  have violations : r.violations.flatMap (violation false) =
      (r.violations.flatMap fun v => [headerLine v,placeLine v,""]).flatMap
        fun line => line.toList ++ ['\n'] := by
    rw [List.flatMap_assoc]
    refine List.flatMap_congr fun v _ => ?_
    simp [violation,severity,headerLine,placeLine,Pointer.text]
  have diagnostics : r.diagnostics.flatMap diagnostic =
      (r.diagnostics.map diagnosticLine).flatMap fun line => line.toList ++ ['\n'] := by
    rw [List.flatMap_map]
    exact List.flatMap_congr fun d _ => (congrArg (· ++ ['\n']) (toList_diagnosticLine d)).symm
  rw [chars,lines,List.flatMap_append,List.flatMap_append,violations,diagnostics,List.append_assoc]
  congr 2
  by_cases clean : r.violations = []
  · simp [summary,isClean,clean]
  · simp [summary,isClean,clean,summaryLine,Decimal.text,Function.comp_def]

/-- What a line feed ends, each in turn, is found between line feeds. -/
theorem splitOn_lines {list : List (List Char)} (whole : ∀ line ∈ list, '\n' ∉ line) :
    (list.flatMap (· ++ ['\n'])).splitOn '\n' = list ++ [[]] := by
  have joined : list.flatMap (· ++ ['\n']) = ['\n'].intercalate (list ++ [[]]) := by
    clear whole
    induction list with
    | nil => rfl
    | cons line rest ih =>
      rw [List.flatMap_cons,ih]
      cases rest <;> simp
  have each : ∀ line ∈ list ++ [[]], '\n' ∉ line := by
    intro line member
    rcases List.mem_append.mp member with inside | last
    · exact whole line inside
    · simp [List.mem_singleton.mp last]
  rw [joined,List.splitOn_intercalate '\n' each (by simp)]

/-! Characters that no printed string has. -/

/-- The character is in no string that is printed of a report. -/
structure Lacks (c : Char) (r : Report) : Prop where
  rules : ∀ v ∈ r.violations, c ∉ v.ruleId.toList
  descriptions : ∀ v ∈ r.violations, c ∉ v.description.toList
  names : ∀ v ∈ r.violations, ∀ name, .key name ∈ v.pointer.segments → c ∉ name.toList
  diagnostics : ∀ d ∈ r.diagnostics, c ∉ d.ruleId.toList ∧ c ∉ d.check.toList ∧ c ∉ d.message.toList

section
variable {c : Char} {r : Report}

theorem not_mem_marked (mark : c = escape ∨ c = '\n') {cs : List Char}
    (outside : escape ∉ cs ∧ '\n' ∉ cs) : c ∉ cs := by
  rcases mark with rfl | rfl
  · exact outside.1
  · exact outside.2

theorem not_mem_digits (mark : c = escape ∨ c = '\n') (n : Nat) : c ∉ Decimal.digits n :=
  not_mem_marked mark ⟨Segment.not_mem_digits (by decide),Segment.not_mem_digits (by decide)⟩

theorem not_mem_pointer (mark : c = escape ∨ c = '\n') {p : Pointer}
    (lacks : ∀ name, .key name ∈ p.segments → c ∉ name.toList) : c ∉ p.chars := by
  have other : c ∉ ['/','~','0','1'] := not_mem_marked mark (by decide)
  simp only [List.mem_cons,List.not_mem_nil,or_false,not_or] at other
  obtain ⟨slash,tilde,zero,one⟩ := other
  intro member
  obtain ⟨s,inside,member⟩ := List.mem_flatMap.mp member
  rcases List.mem_cons.mp member with same | member
  · exact slash same
  · cases s with
    | index i => exact not_mem_digits mark i member
    | key name =>
      obtain ⟨d,here,member⟩ := List.mem_flatMap.mp member
      have same : c = d := by
        unfold Segment.escapeChar at member
        split at member
        · simp [tilde,zero] at member
        · split at member
          · simp [tilde,one] at member
          · exact List.mem_singleton.mp member
      exact lacks name inside (same ▸ here)

theorem not_mem_append {s t : String} (one : c ∉ s.toList) (two : c ∉ t.toList) :
    c ∉ (s ++ t).toList := by
  rw [String.toList_append,List.mem_append,not_or]
  exact ⟨one,two⟩

theorem not_mem_intercalate {sep : List Char} (outside : c ∉ sep) {parts : List (List Char)}
    (each : ∀ part ∈ parts, c ∉ part) : c ∉ sep.intercalate parts := by
  induction parts with
  | nil => exact List.not_mem_nil
  | cons part rest ih =>
    obtain ⟨here,there⟩ := List.forall_mem_cons.mp each
    cases rest with
    | nil => simpa using here
    | cons next rest =>
      rw [List.intercalate_cons_cons]
      simp [here,outside,ih there]

/-- What is in no printed string is in no line. -/
theorem Lacks.lines (lacks : Lacks c r) (mark : c = escape ∨ c = '\n') (listed : List (Severity × Nat)) :
    ∀ line ∈ lines r listed, c ∉ line.toList := by
  have fixed {s : String} := @not_mem_marked c mark s.toList
  have name (s : Severity) : c ∉ s.name.toList := fixed (by cases s <;> decide)
  have digits (n : Nat) : c ∉ (Decimal.text n).toList := by
    rw [Decimal.text,String.toList_ofList]
    exact not_mem_digits mark n
  intro line member
  rcases List.mem_append.mp member with violation | member
  · obtain ⟨v,inside,member⟩ := List.mem_flatMap.mp violation
    simp only [List.mem_cons,List.not_mem_nil,or_false] at member
    rcases member with rfl | rfl | rfl
    · have rule := not_mem_append (name v.severity) (fixed (s := "[") (by decide))
      have title := not_mem_append (not_mem_append rule (lacks.rules v inside))
        (fixed (s := "]: ") (by decide))
      exact not_mem_append title (lacks.descriptions v inside)
    · refine not_mem_append (fixed (by decide)) ?_
      rw [Pointer.text,String.toList_ofList]
      exact not_mem_pointer mark (lacks.names v inside)
    · exact List.not_mem_nil
  · rcases List.mem_append.mp member with diagnostic | last
    · obtain ⟨d,inside,rfl⟩ := List.mem_map.mp diagnostic
      obtain ⟨rule,check,message⟩ := lacks.diagnostics d inside
      have front := not_mem_append (fixed (s := "rule ") (by decide)) rule
      have middle := not_mem_append (not_mem_append front (fixed (s := " check '") (by decide))) check
      have text := not_mem_append (not_mem_append middle (fixed (s := "' failed: ") (by decide))) message
      exact not_mem_append (fixed (by decide)) text
    · split at last
      · cases last
      · obtain rfl := List.mem_singleton.mp last
        have total := not_mem_append (not_mem_append (fixed (s := "Found ") (by decide))
          (digits r.violations.length)) (fixed (s := " violation(s): ") (by decide))
        refine not_mem_append total ?_
        rw [String.toList_intercalate]
        refine not_mem_intercalate (fixed (by decide)) fun part member => ?_
        obtain ⟨_,inside,rfl⟩ := List.mem_map.mp member
        obtain ⟨p,_,rfl⟩ := List.mem_map.mp inside
        exact not_mem_append (not_mem_append (digits p.2) (fixed (s := " ") (by decide))) (name p.1)

end

/-- What stands behind the severity of a violation, with styles or without. -/
def behindSeverity (v : Violation) : List Char :=
  ("[" ++ v.ruleId ++ "]: " ++ v.description ++ "\n").toList ++ (placeLine v ++ "\n\n").toList

theorem violation_eq (color : Bool) (v : Violation) :
    violation color v = severity color v.severity ++ behindSeverity v := by
  simp [violation,behindSeverity,placeLine,Pointer.text]

theorem withoutStyles_violations {vs : List Violation}
    (plain : escape ∉ vs.flatMap (violation false)) (rest : List Char) :
    withoutStyles (vs.flatMap (violation true) ++ rest) =
      vs.flatMap (violation false) ++ withoutStyles rest := by
  induction vs with
  | nil => rfl
  | cons v vs ih =>
    rw [List.flatMap_cons,List.mem_append,not_or,violation_eq,List.mem_append,not_or] at plain
    obtain ⟨⟨_,body⟩,others⟩ := plain
    rw [List.flatMap_cons,List.flatMap_cons,violation_eq,violation_eq]
    simp only [List.append_assoc]
    rw [withoutStyles_severity,withoutStyles_append body,ih others]

theorem withoutStyles_chars {r : Report} (plain : escape ∉ chars false r) :
    withoutStyles (chars true r) = chars false r := by
  rw [chars,List.append_assoc,List.mem_append,not_or] at plain
  obtain ⟨violations,rest⟩ := plain
  rw [chars,chars,List.append_assoc,List.append_assoc,withoutStyles_violations violations,
    withoutStyles_plain rest]

/-- A report printed with styles and without is one text up to the styles, if no string brings an
escape of its own. The text is made of lines: three for each violation (its severity, rule and
description, its place, and an empty one), one for each diagnostic, and one that sums up the
violations if there are any: how many there are, and of which severities, the gravest first. These
are the lines of the text, unless a string has a line feed. -/
theorem styles_apart (r : Report) :
    (Lacks escape r → String.ofList (withoutStyles (text true r).toList) = text false r) ∧
    ∃ listed, Totals r listed ∧
      text false r = String.join ((lines r listed).map (· ++ "\n")) ∧
      (Lacks '\n' r →
        (text false r).toList.splitOn '\n' = (lines r listed).map String.toList ++ [[]]) := by
  refine ⟨fun lacks => ?_,counts r,counts_totals r,?_,fun lacks => ?_⟩
  · have plain : escape ∉ chars false r := by
      rw [chars_eq_lines]
      intro member
      obtain ⟨line,inside,member⟩ := List.mem_flatMap.mp member
      rcases List.mem_append.mp member with member | last
      · exact lacks.lines (.inl rfl) (counts r) line inside member
      · exact absurd last (by decide)
    rw [text,text,String.toList_ofList,withoutStyles_chars plain]
  · apply String.toList_inj.mp
    rw [text,String.toList_ofList,String.toList_join,chars_eq_lines,List.flatMap_map]
    exact List.flatMap_congr fun line _ => (String.toList_append (t := "\n")).symm
  · have whole : ∀ line ∈ (lines r (counts r)).map String.toList, '\n' ∉ line := by
      intro line member
      obtain ⟨line,inside,rfl⟩ := List.mem_map.mp member
      exact lacks.lines (.inr rfl) (counts r) line inside
    rw [text,String.toList_ofList,chars_eq_lines,← splitOn_lines whole,List.flatMap_map]

/-- Descriptions that would end a style, or begin one, behind an escape. -/
def bracketed : Report where
  violations := [
    ⟨"172",.should,"[0m",⟨[.key "paths",.key "/a",.index 0]⟩⟩,
    ⟨"101",.must,"[3",⟨[]⟩⟩]
  diagnostics := [⟨"172","validate","panicked"⟩]
  rules := []

theorem bracketed_lacks {c : Char} (mark : c = escape ∨ c = '\n') : Lacks c bracketed := by
  have fixed {s : String} := @not_mem_marked c mark s.toList
  constructor
  · simp only [bracketed,List.forall_mem_cons]
    exact ⟨fixed (by decide),fixed (by decide),by simp⟩
  · simp only [bracketed,List.forall_mem_cons]
    exact ⟨fixed (by decide),fixed (by decide),by simp⟩
  · intro v member name inside
    simp only [bracketed,List.mem_cons,List.not_mem_nil,or_false] at member
    rcases member with rfl | rfl
    · simp only [List.mem_cons,Segment.key.injEq,reduceCtorEq,List.not_mem_nil,or_false] at inside
      rcases inside with rfl | rfl
      · exact fixed (by decide)
      · exact fixed (by decide)
    · cases inside
  · simp only [bracketed,List.forall_mem_cons]
    exact ⟨⟨fixed (by decide),fixed (by decide),fixed (by decide)⟩,by simp⟩

theorem styles_apart_bracketed :
    Lacks escape bracketed ∧ Lacks '\n' bracketed ∧
    text true bracketed = "\x1b[33m\x1b[1mshould\x1b[0m[172]: [0m\n  --> /paths/~1a/0\n\n" ++
      "\x1b[31m\x1b[1mmust\x1b[0m[101]: [3\n  --> \n\n" ++
      "tooling error: rule 172 check 'validate' failed: panicked\n" ++
      "Found 2 violation(s): 1 must, 1 should\n" ∧
    String.ofList (withoutStyles (text true bracketed).toList) = text false bracketed ∧
    ∃ listed, Totals bracketed listed ∧
      (text false bracketed).toList.splitOn '\n' =
        (lines bracketed listed).map String.toList ++ [[]] := by
  have plain : Lacks escape bracketed := bracketed_lacks (.inl rfl)
  have whole : Lacks '\n' bracketed := bracketed_lacks (.inr rfl)
  obtain ⟨apart,listed,totals,_,split⟩ := styles_apart bracketed
  exact ⟨plain,whole,by decide +kernel,apart plain,listed,totals,split whole⟩

end ApiReview.Report.Human
