import ApiReview.Proofs.Distinct
import ApiReview.Proofs.Faults
import ApiReview.Proofs.Model
import ApiReview.Proofs.Registry

/-! Reported locations. The places of schema faults, of the finding on the format and of media
types all are places of the document that was read. -/
namespace ApiReview

theorem Check.mem_kept {check : Check} {list : List Finding} {f : Finding} :
    f ∈ check.kept list ↔ f ∈ list := by
  unfold kept
  split
  · simp [Finding.mem_distinct]
  · rfl

theorem RegisteredRule.mem_violations {r : RegisteredRule} {c : Context} {check : Check}
    {v : Violation} : v ∈ r.violations c check ↔ ∃ list, check.run c = .ok (.findings list) ∧
      ∃ f ∈ list, v = .of r.rule.id (r.severity check.severity) f := by
  unfold violations
  split
  · next list same => simp [same,Check.mem_kept,eq_comm]
  · next other =>
    simp only [List.not_mem_nil,false_iff]
    rintro ⟨list,same,_⟩
    exact other list same

namespace Registry

theorem builtins_rules {server : Remote.Server} {cache : Remote.Cache} {config : Config}
    {r : Registry} (done : builtins server cache config = .ok r) :
    r.entries.map (·.rule) = [schemaRule server config.schemaUrls cache,MediaTypes.rule] := by
  have rules := configureAll_rules config.rules.entries
    (plainBuiltins server config.schemaUrls cache)
  unfold builtins configure at done
  split at done
  · next r' same =>
    cases done
    rw [same] at rules
    exact rules
  · cases done

end Registry

/-- A pointer that leads to a node, and that its text for the document gives back. -/
def Pointer.Located (root : Json) (p : Pointer) : Prop :=
  ∃ node, p.resolve? root = some node ∧ Walk root p.segments node ∧
    parseAgainst? p.text root = some p

theorem Pointer.located_of_found {root node : Json} {p : Pointer} (fits : root.Addressable)
    (found : p.resolve? root = some node) : p.Located root :=
  ⟨node,found,walk_iff.mp found,parseAgainst?_text (words_of_found fits found) found⟩

theorem Remote.findings_located {server : Server} {urls : SchemaUrls} {cache : Cache}
    {root : Json} (distinct : root.Distinct) (fits : root.Addressable) {list : List Finding}
    (done : (findings server urls cache root).2 = .ok list) {f : Finding} (member : f ∈ list) :
    f.pointer.Located root := by
  obtain ⟨loaded,_,rfl⟩ := Success.map_iff.mp done
  obtain ⟨g,inside,rfl⟩ := List.mem_map.mp member
  obtain ⟨fault,real,rfl⟩ := (Schema.Validator.mem_findings distinct fits).mp inside
  obtain ⟨node,found,_⟩ :=
    Schema.Validator.validator_faults_real loaded.validator distinct fault real
  exact Pointer.located_of_found fits found

theorem UseOpenApi.formatFinding?_root {c : Context} {f : Finding}
    (member : f ∈ (formatFinding? c).toList) : f.pointer = .root := by
  unfold formatFinding? at member
  split at member
  · obtain rfl : f = ⟨"must use YAML format",.root⟩ := by simpa using member
    rfl
  · cases member

/-- The media types of a model are read from where its entries point to. -/
theorem ApiModel.entry_found {root : Json} (distinct : root.Distinct) {dialect : Dialect}
    {o : Operation} (listed : o ∈ (ofRoot dialect root).allOperations) {response : Response}
    (declared : response ∈ o.responses) {e : MediaTypeEntry} (member : e ∈ response.content) :
    ∃ node, e.pointer.resolve? root = some node := by
  obtain ⟨path,method,operation,_,found,rfl⟩ := (mem_allOperations distinct dialect).mp listed
  obtain ⟨status,value,below,rfl⟩ := (mem_responses distinct found).mp declared
  cases dialect with
  | openApi3 =>
    obtain ⟨v,inside,place⟩ := (mem_contentEntries distinct below).mp member
    exact ⟨v,place ▸ inside⟩
  | swagger =>
    have strings {base : Pointer} {items : List Json} (array : base.resolve? root = some (.array items))
        (member : e ∈ stringEntries base 0 items) :
        ∃ node, e.pointer.resolve? root = some node := by
      obtain ⟨i,item,place⟩ := mem_stringEntries.mp member
      rw [Nat.zero_add] at place
      exact ⟨_,place ▸ Pointer.resolve?_index array item⟩
    simp only [content] at member
    cases own : produces? (.ofKeys ["paths",path,method]) operation with
    | some entries =>
      obtain ⟨items,array,rfl⟩ := (produces?_eq_some_iff found).mp own
      exact strings array (by simpa [own] using member)
    | none =>
      cases shared : produces? .root (root.members?.getD []) with
      | some entries =>
        obtain ⟨items,array,rfl⟩ := produces?_root.mp shared
        exact strings array (by simpa [own,shared] using member)
      | none => simp [own,shared] at member

theorem MediaTypes.check_found {d : Document} (distinct : d.root.Distinct) {list : List Finding}
    (done : check (.ofDocument d) = .findings list) {f : Finding} (member : f ∈ list) :
    ∃ node, f.pointer.resolve? d.root = some node := by
  unfold check at done
  split at done
  · cases done
    obtain ⟨u,inside,rfl⟩ := List.mem_map.mp member
    have entry := List.mem_map_of_mem (f := MediaTypeUse.entry) (List.mem_filter.mp inside).1
    rw [Context.mediaTypes_entries] at entry
    obtain ⟨o,listed,entry⟩ := List.mem_flatMap.mp entry
    obtain ⟨response,declared,entry⟩ := List.mem_flatMap.mp entry
    exact ApiModel.entry_found distinct listed declared entry
  · cases done

namespace Registry

/-- Every violation that the built-in rules report of an accepted text is at a place of the
document, which the text of its pointer leads back to. Of the faults that a schema finds, whichever
it is, none loses its place for the root. -/
theorem builtins_locations_real {server : Remote.Server} {cache : Remote.Cache} {config : Config}
    {r : Registry} {text : String} {d : Document}
    (accepted : builtins server cache config = .ok r) (done : Document.read text = .ok d)
    (fits : d.root.Addressable) :
    (∀ v ∈ (r.lint d).violations, v.pointer.Located d.root) ∧
    ∀ (validator : Schema.Validator), ∀ f ∈ validator.faults d.root,
      f.Real d.root ∧ Pointer.parseAgainst? f.place.text d.root = some f.place := by
  obtain ⟨_,_,distinct⟩ := Document.read_distinct done
  refine ⟨fun v member => ?_,fun validator f fault =>
    ⟨Schema.Validator.validator_faults_real validator distinct f fault,
      Schema.Validator.parseAgainst?_place validator distinct fits fault⟩⟩
  obtain ⟨e,inside,_,check,listed,member⟩ := mem_violations.mp member
  obtain ⟨list,ran,f,found,rfl⟩ := RegisteredRule.mem_violations.mp member
  change f.pointer.Located d.root
  have rule := List.mem_map_of_mem (f := RegisteredRule.rule) inside
  rw [builtins_rules accepted] at rule
  simp only [List.mem_cons,List.not_mem_nil,or_false] at rule
  rcases rule with rule | rule
  · rw [rule] at listed
    simp only [schemaRule,UseOpenApi.rule,List.mem_cons,List.not_mem_nil,or_false] at listed
    rcases listed with rfl | rfl
    · obtain ⟨_,done,same⟩ := Success.map_iff.mp ran
      cases same
      exact Remote.findings_located distinct fits (Success.mapError_iff.mp done) found
    · simp only [Check.run,Except.map,Except.ok.injEq,CheckResult.findings.injEq] at ran
      rw [UseOpenApi.formatFinding?_root (ran ▸ found)]
      exact Pointer.located_of_found fits (Pointer.resolve?_root d.root)
  · rw [rule] at listed
    obtain rfl := List.mem_singleton.mp listed
    obtain ⟨node,resolved⟩ := MediaTypes.check_found distinct (Except.ok.inj ran) found
    exact Pointer.located_of_found fits resolved

/-- A path with both of the characters that texts of pointers escape. -/
def escapedText : String :=
  "\x7b\"paths\":\x7b\"/~a\":\x7b\"get\":\x7b\"responses\":\x7b\"200\":" ++
  "\x7b\"content\":\x7b\"\":\x7b\x7d\x7d\x7d\x7d\x7d\x7d\x7d\x7d"

def escapedRoot : Json :=
  ["paths","/~a","get","responses","200","content",""].foldr
    (fun name v => .object [(name,v)]) (.object [])

def onlyMediaTypes : Config := { rules := RuleTable.empty.insert "101" { enabled := false } }

theorem builtins_locations_real_escaped : ∃ r d,
    builtins (fun _ => .unreachable) .empty onlyMediaTypes = .ok r ∧
    Document.read escapedText = .ok d ∧ d.root.Addressable ∧
    (r.lint d).violations.map (·.pointer) =
      [.ofKeys ["paths","/~a","get","responses","200","content",""]] ∧
    (∀ v ∈ (r.lint d).violations, v.pointer.Located d.root) ∧
    ∀ (validator : Schema.Validator), ∀ f ∈ validator.faults d.root,
      f.Real d.root ∧ Pointer.parseAgainst? f.place.text d.root = some f.place := by
  have accepted : builtins (fun _ => .unreachable) .empty onlyMediaTypes = .ok
      ⟨[⟨schemaRule (fun _ => .unreachable) {} .empty,false,none⟩,⟨MediaTypes.rule,true,none⟩]⟩ := rfl
  have done : Document.read escapedText = .ok ⟨escapedText,escapedRoot⟩ :=
    Document.read_of_root (by decide +kernel)
  have fits : escapedRoot.Addressable := by
    simp [escapedRoot,Json.Addressable,Json.AddressableMembers]
  exact ⟨_,_,accepted,done,fits,by decide +kernel,builtins_locations_real accepted done fits⟩

end Registry
end ApiReview
