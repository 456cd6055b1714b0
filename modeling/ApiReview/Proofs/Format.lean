import Mathlib.Data.List.TakeWhile
import ApiReview.Proofs.Rendering

/-! The check on the format beside the reader. A text that the reader takes for JSON begins and ends
with a brace, so it is always reported; so is YAML that does, and no other text. -/
namespace ApiReview
namespace Json

/-- What a step leaves is the end of what it was given. -/
def Consumes {α : Type} (step : List Char → Step α) : Prop :=
  ∀ cs a rest, step cs = .ok (a,rest) → rest <:+ cs

section
variable {α β : Type} {cs rest : List Char}

theorem Consumes.andThen {one : List Char → Step α} {next : α → List Char → Step β}
    (first : Consumes one) (then_ : ∀ a, Consumes (next a)) :
    Consumes fun cs => Json.andThen (one cs) next := by
  intro cs b rest done
  obtain ⟨a,left,here,done⟩ := andThen_ok done
  exact (then_ a left b rest done).trans (first cs a left here)

theorem skipBlanks_suffix (cs : List Char) : skipBlanks cs <:+ cs := List.dropWhile_suffix isBlank

theorem hexEscape_consumes : Consumes hexEscape := by
  intro cs n rest done
  unfold hexEscape at done
  split at done
  · split at done
    · cases done
      exact ⟨[_,_,_,_],rfl⟩
    · cases done
  · split at done <;> cases done

theorem unicodeEscape_consumes : Consumes unicodeEscape := by
  refine hexEscape_consumes.andThen fun high cs c rest done => ?_
  split at done
  · cases done
  · split at done
    · cases done
      exact List.suffix_refl _
    · split at done
      · cases done
      · cases done
      · next tail =>
        obtain ⟨low,left,digits,done⟩ := andThen_ok done
        have inside : left <:+ tail := hexEscape_consumes tail low left digits
        split at done
        · cases done
        · obtain ⟨_,rfl⟩ := Prod.mk.inj (Except.ok.inj done)
          exact inside.trans ⟨['\\','u'],rfl⟩
      · cases done
      · cases done

theorem escape_consumes : Consumes escape := by
  intro cs c rest done
  unfold escape at done
  split at done
  · cases done
  · next tail => exact (unicodeEscape_consumes tail c rest done).trans (List.suffix_cons _ _)
  · split at done
    all_goals first
      | (cases done; exact List.suffix_cons _ _)
      | cases done

theorem stringBody_consumes (budget : Nat) (read : List Char) : Consumes (stringBody budget read) := by
  induction budget generalizing read with
  | zero => intro cs s rest done; cases cs <;> cases done
  | succ budget ih =>
    intro cs s rest done
    cases cs with
    | nil => cases done
    | cons c tail =>
      rw [stringBody] at done
      refine List.IsSuffix.trans ?_ (List.suffix_cons c tail)
      split at done
      · cases done
        exact List.suffix_refl _
      · split at done
        · exact (escape_consumes.andThen fun c => ih (c :: read)) tail s rest done
        · split at done
          · cases done
          · exact ih (c :: read) tail s rest done

theorem floatOf_rest {negative : Bool} {significand : Nat} {exponent : Int} {n : Number}
    (done : floatOf negative significand exponent cs = .ok (n,rest)) : rest = cs := by
  unfold floatOf at done
  split at done <;> cases done
  rfl

theorem exponentPart_consumes (negative : Bool) (significand : Nat) (exponent : Int) :
    Consumes (exponentPart negative significand exponent) := by
  intro cs n rest done
  have digits (cs : List Char) : cs.dropWhile Decimal.isDigit <:+ cs := List.dropWhile_suffix _
  unfold exponentPart at done
  split at done
  rename_i down cs' sign
  have inside : cs' <:+ cs := by
    split at sign
    · exact (Prod.mk.inj sign).2 ▸ List.suffix_cons _ _
    · exact (Prod.mk.inj sign).2 ▸ List.suffix_cons _ _
    · exact (Prod.mk.inj sign).2 ▸ List.suffix_refl _
  refine List.IsSuffix.trans ?_ inside
  split at done
  · cases done
  · split at done
    · simp only at done
      split at done
      · split at done
        · cases done
        · obtain ⟨_,rfl⟩ := Prod.mk.inj (Except.ok.inj done)
          exact digits _
      · exact floatOf_rest done ▸ digits _
    · cases done

theorem fractionPart_consumes (negative : Bool) (significand : Nat) (exponent : Int) :
    Consumes (fractionPart negative significand exponent) := by
  intro cs n rest done
  have digits : cs.dropWhile Decimal.isDigit <:+ cs := List.dropWhile_suffix _
  have behind (c : Char) (tail : List Char) (same : cs.dropWhile Decimal.isDigit = c :: tail) :
      tail <:+ cs := (List.suffix_cons c tail).trans (same ▸ digits)
  unfold fractionPart at done
  simp only at done
  split at done
  · split at done <;> cases done
  · split at done
    · next same => exact (exponentPart_consumes _ _ _ _ n rest done).trans (behind _ _ same)
    · next same => exact (exponentPart_consumes _ _ _ _ n rest done).trans (behind _ _ same)
    · exact floatOf_rest done ▸ digits

theorem numberBody_consumes (negative : Bool) : Consumes (numberBody negative) := by
  intro cs n rest done
  have digits : cs.dropWhile Decimal.isDigit <:+ cs := List.dropWhile_suffix _
  have behind (c : Char) (tail : List Char) (same : cs.dropWhile Decimal.isDigit = c :: tail) :
      tail <:+ cs := (List.suffix_cons c tail).trans (same ▸ digits)
  unfold numberBody at done
  split at done
  · cases done
  · next c tail =>
    split at done
    · cases done
    · split at done
      · cases done
      · simp only at done
        split at done
        · next same => exact (fractionPart_consumes _ _ _ _ n rest done).trans (behind _ _ same)
        · next same => exact (exponentPart_consumes _ _ _ _ n rest done).trans (behind _ _ same)
        · next same => exact (exponentPart_consumes _ _ _ _ n rest done).trans (behind _ _ same)
        · rcases dite_eq_iff.mp done with ⟨_,done⟩ | ⟨_,done⟩
          · obtain ⟨_,rfl⟩ := Prod.mk.inj (Except.ok.inj done)
            exact digits
          · exact floatOf_rest done ▸ digits

theorem word_consumes (v : Json) (ws : List Char) : Consumes (word v ws) := by
  induction ws with
  | nil =>
    intro cs w rest done
    cases done
    exact List.suffix_refl _
  | cons letter ws ih =>
    intro cs w rest done
    cases cs with
    | nil => cases done
    | cons c tail =>
      rw [word] at done
      split at done
      · exact (ih tail w rest done).trans (List.suffix_cons c tail)
      · cases done

theorem itemsFrom_consumes {item : List Char → Step Json} (below : Consumes item) (budget : Nat)
    (first : Bool) (read : List Json) : Consumes (itemsFrom item budget first read) := by
  induction budget generalizing first read with
  | zero => intro cs v rest done; cases done
  | succ budget ih =>
    intro cs v rest done
    have next (tail : List Char) (inside : tail <:+ cs)
        (done : andThen (item tail) (fun v rest => itemsFrom item budget false (v :: read) rest) =
          .ok (v,rest)) : rest <:+ cs :=
      ((below.andThen fun w => ih false (w :: read)) tail v rest done).trans inside
    simp only [itemsFrom] at done
    have ahead := skipBlanks_suffix cs
    split at done
    · cases done
    · next same =>
      cases done
      exact (List.suffix_cons _ _).trans (same ▸ ahead)
    · next c tail _ same =>
      rw [same] at ahead
      split at done
      · exact next _ ahead done
      · split at done
        · split at done
          · cases done
          · cases done
          · exact next _ ((skipBlanks_suffix tail).trans ((List.suffix_cons c tail).trans ahead)) done
        · cases done

theorem member_consumes {item : List Char → Step Json} (below : Consumes item) :
    Consumes (member item) := by
  intro cs m rest done
  unfold member at done
  split at done
  · next tail =>
    obtain ⟨name,left,one,done⟩ := andThen_ok done
    have inside := stringBody_consumes _ _ tail name left one
    have ahead := (skipBlanks_suffix left).trans (inside.trans (List.suffix_cons '"' tail))
    split at done
    · cases done
    · next behind same =>
      rw [same] at ahead
      obtain ⟨v,left',two,done⟩ := andThen_ok done
      cases done
      exact (below behind v rest two).trans ((List.suffix_cons _ _).trans ahead)
    · cases done
  · cases done

/-- An object ends with a brace. -/
theorem membersFrom_brace {item : List Char → Step Json} (below : Consumes item) (budget : Nat)
    (first : Bool) (read : List (String × Json)) (cs : List Char) (v : Json) (rest : List Char)
    (done : membersFrom item budget first read cs = .ok (v,rest)) : '}' :: rest <:+ cs := by
  induction budget generalizing first read cs with
  | zero => cases done
  | succ budget ih =>
    have next (tail : List Char) (inside : tail <:+ cs)
        (done : andThen (member item tail) (fun m rest =>
          membersFrom item budget false (insert m.1 m.2 read) rest) = .ok (v,rest)) :
        '}' :: rest <:+ cs := by
      obtain ⟨m,left,one,done⟩ := andThen_ok done
      exact (ih _ _ left done).trans ((member_consumes below tail m left one).trans inside)
    simp only [membersFrom] at done
    have ahead := skipBlanks_suffix cs
    split at done
    · cases done
    · next same =>
      cases done
      exact same ▸ ahead
    · next c tail _ same =>
      rw [same] at ahead
      split at done
      · exact next _ ahead done
      · split at done
        · split at done
          · cases done
          · cases done
          · exact next _ ((skipBlanks_suffix tail).trans ((List.suffix_cons c tail).trans ahead)) done
        · cases done

theorem scalar_consumes {read : List Char → Step α} {make : α → Json} (below : Consumes read) :
    Consumes fun cs => andThen (read cs) fun a rest => .ok (make a,rest) := by
  refine below.andThen fun a cs v rest done => ?_
  cases done
  exact List.suffix_refl _

theorem value_consumes (depth : Nat) : Consumes (value depth) := by
  induction depth using Nat.strongRecOn with
  | _ depth ih =>
    intro cs v rest done
    have ahead := skipBlanks_suffix cs
    unfold value at done
    split at done
    · cases done
    · next c tail same =>
      rw [same] at ahead
      have inside := (List.suffix_cons c tail).trans ahead
      repeat' split at done
      all_goals first
        | exact (word_consumes _ _ tail v rest done).trans inside
        | exact (scalar_consumes (stringBody_consumes _ _) tail v rest done).trans inside
        | exact (itemsFrom_consumes (ih _ (by omega)) _ _ _ tail v rest done).trans inside
        | exact (List.suffix_cons _ _).trans
            ((membersFrom_brace (ih _ (by omega)) _ _ _ tail v rest done).trans inside)
        | exact (scalar_consumes (numberBody_consumes true) tail v rest done).trans inside
        | exact (scalar_consumes (numberBody_consumes false) _ v rest done).trans ahead
        | cases done

theorem itemsFrom_array {item : List Char → Step Json} {budget : Nat} {first : Bool}
    {read : List Json} {v : Json} (done : itemsFrom item budget first read cs = .ok (v,rest)) :
    v.isObject = false := by
  induction budget generalizing first read cs with
  | zero => cases done
  | succ budget ih =>
    have next (tail : List Char)
        (done : andThen (item tail) (fun v rest => itemsFrom item budget false (v :: read) rest) =
          .ok (v,rest)) : v.isObject = false := by
      obtain ⟨_,_,_,done⟩ := andThen_ok done
      exact ih done
    simp only [itemsFrom] at done
    split at done
    · cases done
    · cases done
      rfl
    · split at done
      · exact next _ done
      · split at done
        · split at done
          · cases done
          · cases done
          · exact next _ done
        · cases done

/-- Only a text that opens with a brace is an object. -/
theorem value_object {depth : Nat} {ms : List (String × Json)}
    (done : value depth cs = .ok (.object ms,rest)) :
    ∃ inside, skipBlanks cs = '{' :: inside ∧ '}' :: rest <:+ inside := by
  unfold value at done
  split at done
  · cases done
  · next c tail same =>
    have scalar {α : Type} {s : Step α} {make : α → Json} (other : ∀ a, make a ≠ .object ms)
        (done : andThen s (fun a rest => .ok (make a,rest)) = .ok (.object ms,rest)) : False := by
      obtain ⟨a,_,_,done⟩ := andThen_ok done
      exact other a (Prod.mk.inj (Except.ok.inj done)).1
    repeat' split at done
    all_goals first
      | cases word_value done
      | exact absurd done (scalar (by simp))
      | cases itemsFrom_array done
      | cases done
      | skip
    next open_ _ _ =>
      exact ⟨tail,open_ ▸ same,membersFrom_brace (value_consumes _) _ _ _ tail _ rest done⟩

/-- The text of an object has braces at its ends, but for blanks. -/
theorem read_object {text : String} {ms : List (String × Json)} (done : read text = .ok (.object ms)) :
    ∃ before inside after, text.toList = before ++ '{' :: (inside ++ '}' :: after) ∧
      (∀ c ∈ before, isBlank c = true) ∧ ∀ c ∈ after, isBlank c = true := by
  unfold read at done
  split at done
  · next v one =>
    cases done
    unfold document at one
    split at one
    · cases one
    · next v rest value =>
      split at one
      · next blank =>
        cases one
        obtain ⟨tail,opening,inside,closing⟩ := value_object value
        refine ⟨text.toList.takeWhile isBlank,inside,rest,?_,?_,?_⟩
        · rw [closing,← opening]
          exact List.takeWhile_append_dropWhile.symm
        · exact fun c member => List.mem_takeWhile_imp member
        · exact List.dropWhile_eq_nil_iff.mp blank
      · cases one
  · cases done

end
end Json

namespace Text

/-- A text that, without white space at its ends, begins with a brace and ends with one. -/
def Braced (cs : List Char) : Prop := ∃ before inside after,
  cs = before ++ '{' :: (inside ++ '}' :: after) ∧
  (∀ c ∈ before, isBlank c = true) ∧ ∀ c ∈ after, isBlank c = true

theorem isBlank_of_json {c : Char} (blank : Json.isBlank c = true) : isBlank c = true := by
  simp only [Json.isBlank,Bool.or_eq_true,decide_eq_true_eq] at blank
  rcases blank with ((rfl | rfl) | rfl) | rfl
  all_goals decide +kernel

theorem trimStart_before {before cs : List Char} (blank : ∀ c ∈ before, isBlank c = true) :
    trimStart (before ++ cs) = trimStart cs := by
  rw [trimStart,List.dropWhile_append_of_pos blank,trimStart]

theorem trimEnd_after {cs after : List Char} (blank : ∀ c ∈ after, isBlank c = true) :
    trimEnd (cs ++ after) = trimEnd cs := by
  have blank' : ∀ c ∈ after.reverse, isBlank c = true := by simpa using blank
  rw [trimEnd,List.reverse_append,List.dropWhile_append_of_pos blank',trimEnd]

theorem trim_cases (cs : List Char) : ∃ before after, cs = before ++ (trim cs ++ after) ∧
    (∀ c ∈ before, isBlank c = true) ∧ ∀ c ∈ after, isBlank c = true := by
  refine ⟨cs.takeWhile isBlank,((trimStart cs).reverse.takeWhile isBlank).reverse,?_,?_,?_⟩
  · rw [trim,trimEnd,← List.reverse_append,List.takeWhile_append_dropWhile,List.reverse_reverse]
    exact List.takeWhile_append_dropWhile.symm
  · exact fun c member => List.mem_takeWhile_imp member
  · exact fun c member => List.mem_takeWhile_imp (List.mem_reverse.mp member)

theorem braces_solid : isBlank '{' = false ∧ isBlank '}' = false := by decide +kernel

theorem braced_iff (source : String) :
    UseOpenApi.isBraced source = true ↔ Braced source.toList := by
  obtain ⟨open_,close⟩ := braces_solid
  simp only [UseOpenApi.isBraced,Bool.and_eq_true,beq_iff_eq]
  constructor
  · rintro ⟨first,last⟩
    obtain ⟨before,after,split,blank,blank'⟩ := trim_cases source.toList
    obtain ⟨tail,opening⟩ := List.head?_eq_some_iff.mp first
    obtain ⟨front,closing⟩ := List.getLast?_eq_some_iff.mp last
    cases front with
    | nil => simp [opening] at closing
    | cons c inside =>
      obtain ⟨rfl,_⟩ := List.cons.inj (opening.symm.trans closing)
      exact ⟨before,inside,after,by rw [split,closing]; simp,blank,blank'⟩
  · rintro ⟨before,inside,after,split,blank,blank'⟩
    have trimmed : trim source.toList = '{' :: (inside ++ ['}']) := by
      rw [trim,split,trimStart_before blank,trimStart,List.dropWhile_cons_of_neg (by simp [open_])]
      have shape : '{' :: (inside ++ '}' :: after) = ('{' :: (inside ++ ['}'])) ++ after := by simp
      rw [shape,trimEnd_after blank',trimEnd]
      simp [close]
    rw [trimmed]
    exact ⟨rfl,List.getLast?_eq_some_iff.mpr ⟨'{' :: inside,rfl⟩⟩

end Text

namespace Document

/-- The text begins with a brace and is what the reader of JSON reads. -/
def ReadByJson (text : String) : Prop :=
  (Text.trimStart text.toList).head? = some '{' ∧ ∃ v, Json.read text = .ok v

theorem braced_of_json {text : String} {root : Json} (object : root.isObject = true)
    (json : Json.read text = .ok root) : Text.Braced text.toList := by
  cases root with
  | object ms =>
    obtain ⟨before,inside,after,split,blank,blank'⟩ := Json.read_object json
    exact ⟨before,inside,after,split,fun c member => Text.isBlank_of_json (blank c member),
      fun c member => Text.isBlank_of_json (blank' c member)⟩
  | _ => cases object

theorem head_of_braced {cs : List Char} (braced : Text.Braced cs) :
    (Text.trimStart cs).head? = some '{' := by
  obtain ⟨before,inside,after,rfl,blank,_⟩ := braced
  rw [Text.trimStart_before blank,Text.trimStart,
    List.dropWhile_cons_of_neg (by simp [Text.braces_solid])]
  rfl

/-- What the reader of JSON has read is the JSON text of the tree. -/
theorem readByJson_iff {text : String} {d : Document} (done : read text = .ok d) :
    ReadByJson text ↔ Json.read text = .ok d.root := by
  constructor
  · rintro ⟨brace,v,json⟩
    have root : readRoot text = .ok v := by simp only [readRoot,if_pos brace,json]
    simp only [read,root] at done
    split at done
    · cases done
      exact json
    · cases done
  · intro json
    obtain ⟨_,object,_⟩ := read_distinct done
    exact ⟨head_of_braced (braced_of_json object json),_,json⟩

end Document

/-- What the check on the format reports, with the severity that is set for the rule if one is. -/
def RegisteredRule.formatViolation (e : RegisteredRule) : Violation :=
  ⟨UseOpenApi.id,e.override.getD .must,"must use YAML format",.root⟩

namespace Registry
variable {server : Remote.Server} {cache : Remote.Cache} {config : Config} {r : Registry}
  {e : RegisteredRule}

theorem description_iff (accepted : builtins server cache config = .ok r) {c : Context} {d : Due}
    (due : d ∈ r.due) {v : Violation} (member : v ∈ d.violations c) :
    v.description = "must use YAML format" ↔ d.check.name = "check_yaml_format" := by
  rw [← onFormat_iff accepted due member,Violation.onFormat,Bool.and_eq_true,decide_eq_true_eq,
    decide_eq_true_eq,iff_and_self]
  intro said
  obtain ⟨f,found,rfl⟩ := List.mem_map.mp member
  obtain ⟨list,ran,inside⟩ := Due.mem_findings.mp found
  rcases builtins_due accepted due with ⟨entry,_⟩ | ⟨id,_,_⟩ | ⟨_,_,entry⟩
  · rw [Check.run,entry] at ran
    obtain ⟨_,done,same⟩ := Success.map_iff.mp ran
    cases same
    obtain ⟨_,_,rfl⟩ := Success.map_iff.mp (Success.mapError_iff.mp done)
    obtain ⟨g,_,rfl⟩ := List.mem_map.mp inside
    exact absurd said (Remote.descriptionFor_ne _ _)
  · exact id
  · rw [Check.run,entry] at ran
    have result := Except.ok.inj ran
    unfold MediaTypes.check at result
    split at result
    · cases result
      obtain ⟨use,_,rfl⟩ := List.mem_map.mp inside
      exact absurd said (by simp [MediaTypes.description])
    · cases result

theorem filter_violations (accepted : builtins server cache config = .ok r) {c : Context} {d : Due}
    (due : d ∈ r.due) : (d.violations c).filter (·.description = "must use YAML format") =
      if d.check.name = "check_yaml_format" then d.violations c else [] := by
  split
  · next name =>
    exact List.filter_eq_self.mpr fun v member =>
      decide_eq_true ((description_iff accepted due member).mpr name)
  · next name =>
    refine List.filter_eq_nil_iff.mpr fun v member => ?_
    simpa using mt (description_iff accepted due member).mp name

/-- The entry of the rule on the description stands before that of the rule on media types. -/
theorem entries_of_builtins (accepted : builtins server cache config = .ok r)
    (found : r.get? UseOpenApi.id = some e) : ∃ media, r.entries = [e,media] ∧
      e.rule = schemaRule server config.schemaUrls cache ∧ media.rule = MediaTypes.rule := by
  have rules := builtins_rules accepted
  obtain ⟨entries⟩ := r
  obtain ⟨first,rest,rfl,rule,rules⟩ := List.map_eq_cons_iff.mp rules
  obtain ⟨media,none,rfl,rule',rules⟩ := List.map_eq_cons_iff.mp rules
  obtain rfl := List.map_eq_nil_iff.mp rules
  have id : first.rule.id = UseOpenApi.id := by rw [rule]; rfl
  obtain rfl : first = e := by simpa [get?,id] using found
  exact ⟨media,rfl,rule,rule'⟩

theorem violations_format (accepted : builtins server cache config = .ok r)
    (found : r.get? UseOpenApi.id = some e) (enabled : e.enabled = true) (c : Context) :
    (r.lintContext c).violations.filter (·.description = "must use YAML format") =
      if UseOpenApi.isBraced c.source then [e.formatViolation] else [] := by
  have own (stage : Stage) :
      (r.violationsAt c stage).filter (·.description = "must use YAML format") =
      (r.due.filter (·.check.stage = stage)).flatMap fun d =>
        if d.check.name = "check_yaml_format" then d.violations c else [] := by
    rw [violationsAt,List.filter_flatMap]
    exact List.flatMap_congr fun d inside =>
      filter_violations accepted (List.mem_filter.mp inside).1
  rw [lintContext_violations,List.filter_append,own,own]
  obtain ⟨media,entries,rule,rule'⟩ := entries_of_builtins accepted found
  have due : r.due = e.due ++ media.due := by simp [Registry.due,entries]
  have other (stage : Stage) : ((media.due.filter (·.check.stage = stage)).flatMap fun d =>
      if d.check.name = "check_yaml_format" then d.violations c else []) = [] := by
    refine List.flatMap_eq_nil_iff.mpr fun d inside => if_neg ?_
    have listed := (List.mem_filter.mp inside).1
    unfold RegisteredRule.due at listed
    split at listed
    · obtain ⟨check,member,rfl⟩ := List.mem_map.mp listed
      rw [rule'] at member
      obtain rfl := List.mem_singleton.mp member
      simp
    · cases listed
  have severity (check : Check) (must : check.severity = some .must) :
      e.severityOf check = e.override.getD .must := by
    rw [RegisteredRule.severityOf,must]
    cases e.override <;> rfl
  rw [due]
  simp only [List.filter_append,List.flatMap_append,other,List.append_nil]
  rw [RegisteredRule.due,if_pos enabled,rule]
  simp only [schemaRule,UseOpenApi.rule,List.map_cons,List.map_nil,List.filter_cons]
  by_cases braced : UseOpenApi.isBraced c.source = true
  · simp [Due.violations,Due.findings,Check.run,UseOpenApi.formatFinding?,severity,braced,
      Except.map,RegisteredRule.formatViolation]
  · simp [Due.violations,Due.findings,Check.run,UseOpenApi.formatFinding?,braced,Except.map]

/-- The format in a report. A text that is read as JSON is the JSON text of its tree, and is always
reported; one that is read as YAML is reported if it stands between braces, and else is not. What is
reported is reported once and at the root. -/
theorem format_reported (accepted : builtins server cache config = .ok r)
    (found : r.get? UseOpenApi.id = some e) (enabled : e.enabled = true) {text : String}
    {d : Document} (done : Document.read text = .ok d) :
    (Document.ReadByJson text ↔ Json.read text = .ok d.root) ∧
    ∃ report, r.lintText text = .ok report ∧
      (Document.ReadByJson text →
        report.violations.filter (·.description = "must use YAML format") = [e.formatViolation]) ∧
      (¬ Document.ReadByJson text →
        (Text.Braced text.toList →
          report.violations.filter (·.description = "must use YAML format") =
            [e.formatViolation]) ∧
        (¬ Text.Braced text.toList →
          ∀ v ∈ report.violations, v.description ≠ "must use YAML format")) := by
  refine ⟨Document.readByJson_iff done,r.lint d,by rw [lintText,done]; rfl,?_⟩
  obtain ⟨source,object,_⟩ := Document.read_distinct done
  have whole := violations_format accepted found enabled (.ofDocument d)
  have braced : UseOpenApi.isBraced (Context.ofDocument d).source = true ↔
      Text.Braced text.toList := by
    rw [← source]
    exact Text.braced_iff d.source
  have reported (inside : Text.Braced text.toList) : (r.lint d).violations.filter
      (·.description = "must use YAML format") = [e.formatViolation] := by
    rw [lint,whole,if_pos (braced.mpr inside)]
  refine ⟨fun json => ?_,fun _ => ⟨reported,fun plain v member said => ?_⟩⟩
  · exact reported (Document.braced_of_json object ((Document.readByJson_iff done).mp json))
  · rw [if_neg (mt braced.mp plain)] at whole
    exact List.filter_eq_nil_iff.mp whole v member (decide_eq_true said)

/-- YAML between braces behind which a comment stands, and JSON. -/
theorem format_reported_comment :
    let r := plainBuiltins (fun _ => .unreachable) {} .empty
    ∃ e one two, builtins (fun _ => .unreachable) .empty {} = .ok r ∧
      r.get? UseOpenApi.id = some e ∧ e.enabled = true ∧
      ¬ Document.ReadByJson "\x7ba: 1\x7d # b\n" ∧ r.lintText "\x7ba: 1\x7d # b\n" = .ok one ∧
      (∀ v ∈ one.violations, v.description ≠ "must use YAML format") ∧
      Document.ReadByJson "\t\x7b\"a\": 1\x7d\n" ∧ r.lintText "\t\x7b\"a\": 1\x7d\n" = .ok two ∧
      two.violations.filter (·.description = "must use YAML format") = [e.formatViolation] := by
  intro r
  have accepted : builtins (fun _ => .unreachable) .empty {} = .ok r := rfl
  have found : r.get? UseOpenApi.id = some ⟨schemaRule (fun _ => .unreachable) {} .empty,true,none⟩ :=
    rfl
  have yaml : Document.read "\x7ba: 1\x7d # b\n" = .ok ⟨"\x7ba: 1\x7d # b\n",.object [("a",.int 1)]⟩ :=
    Document.read_of_root (by decide +kernel)
  have json : Document.read "\t\x7b\"a\": 1\x7d\n" = .ok ⟨"\t\x7b\"a\": 1\x7d\n",.object [("a",.int 1)]⟩ :=
    Document.read_of_root (by decide +kernel)
  obtain ⟨byJson,one,first,_,plain⟩ := format_reported accepted found rfl yaml
  obtain ⟨byJson',two,second,reported,_⟩ := format_reported accepted found rfl json
  have other : ¬ Document.ReadByJson "\x7ba: 1\x7d # b\n" :=
    byJson.not.mpr (by decide +kernel)
  have same : Document.ReadByJson "\t\x7b\"a\": 1\x7d\n" := byJson'.mpr (by decide +kernel)
  have open_ : ¬ Text.Braced "\x7ba: 1\x7d # b\n".toList :=
    (Text.braced_iff _).not.mp (by decide +kernel)
  exact ⟨_,one,two,accepted,found,rfl,other,first,(plain other).2 open_,same,second,reported same⟩

/-- A description in the style of braces, without quotes about its names. -/
def flowText : String :=
  "\x7bopenapi: 3.0.0, info: \x7btitle: Pets, version: '1'\x7d, paths: \x7b\x7d\x7d"

/-- It is YAML and not JSON, and is reported. -/
theorem format_reported_flow :
    let r := plainBuiltins (fun _ => .unreachable) {} .empty
    ∃ e d report, builtins (fun _ => .unreachable) .empty {} = .ok r ∧
      r.get? UseOpenApi.id = some e ∧ e.enabled = true ∧ Document.read flowText = .ok d ∧
      (∀ v, Json.read flowText ≠ .ok v) ∧ r.lintText flowText = .ok report ∧
      e.formatViolation ∈ report.violations := by
  intro r
  have accepted : builtins (fun _ => .unreachable) .empty {} = .ok r := rfl
  have found : r.get? UseOpenApi.id = some ⟨schemaRule (fun _ => .unreachable) {} .empty,true,none⟩ :=
    rfl
  let root : Json := .object [("openapi",.string "3.0.0"),
    ("info",.object [("title",.string "Pets"),("version",.string "1")]),("paths",.object [])]
  have done : Document.read flowText = .ok ⟨flowText,root⟩ :=
    Document.read_of_root (by decide +kernel)
  have error : (Json.read flowText).toOption = none := by decide +kernel
  have other (v : Json) (json : Json.read flowText = .ok v) : False :=
    nomatch error.symm.trans (Success.toOption_iff.mpr json)
  have braced : UseOpenApi.isBraced flowText = true := by decide +kernel
  have reported := violations_format accepted found rfl (.ofDocument ⟨flowText,root⟩)
  rw [Context.ofDocument,if_pos braced] at reported
  have inside := List.mem_of_mem_filter (reported ▸ List.mem_singleton_self _)
  exact ⟨_,_,r.lint ⟨flowText,root⟩,accepted,found,rfl,done,other,by rw [lintText,done]; rfl,inside⟩

end Registry
end ApiReview
