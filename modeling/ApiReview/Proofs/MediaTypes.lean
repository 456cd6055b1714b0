import ApiReview.Proofs.Distinct
import ApiReview.Proofs.Model
import ApiReview.Proofs.Registry

/-! The rule on media types. What it reports is described by pointers alone: which of them count,
and in which order they stand. -/
namespace ApiReview.MediaTypes
open ApiModel

/-- The place of a name under `content` in a response of an OpenAPI 3 document. -/
def Declared (root : Json) (p : Pointer) (name : String) : Prop :=
  ∃ path method status, p = .ofKeys ["paths",path,method,"responses",status,"content",name] ∧
    isMethod method = true ∧ ∃ v, p.resolve? root = some v

/-- The list that gives an operation of a Swagger document its media types: its own, else that of
the root. -/
def listOf (root : Json) (op : Pointer) : Pointer :=
  match (op.key "produces").resolve? root with
  | some (.array _) => op.key "produces"
  | _ => .ofKeys ["produces"]

/-- An operation of a Swagger document declares a response, and so makes use of an entry. -/
structure Uses (root : Json) (op p : Pointer) (name : String) : Prop where
  operation : ∃ path method, op = .ofKeys ["paths",path,method] ∧ isMethod method = true
  responds : ∃ status v, ((op.key "responses").key status).resolve? root = some v
  entry : ∃ i, p = (listOf root op).index i
  text : p.resolve? root = some (.string name)

/-- The order of first use: some operation uses the first entry before any uses the second, or uses
both, which are then entries of one list. -/
def UsedBefore (root : Json) (p q : Pointer) : Prop :=
  ∃ op name, Uses root op p name ∧ ∀ op' name', Uses root op' q name' →
    Pointer.Precedes root op op' ∨ op' = op ∧ Pointer.Precedes root p q

section
variable {root : Json}

theorem declared_iff (distinct : root.Distinct) {p : Pointer} {name : String} :
    Declared root p name ↔ ∃ o ∈ (ofRoot .openApi3 root).allOperations,
      ∃ r ∈ o.responses, ⟨name,p⟩ ∈ r.content := by
  constructor
  · rintro ⟨path,method,status,rfl,known,v,found⟩
    obtain ⟨names,contents,_⟩ := (Pointer.resolve?_key_iff
      (p := .ofKeys ["paths",path,method,"responses",status,"content"])).mp found
    obtain ⟨value,response,_⟩ := (Pointer.resolve?_key_iff
      (p := .ofKeys ["paths",path,method,"responses",status])).mp contents
    obtain ⟨statuses,responses,_⟩ := (Pointer.resolve?_key_iff
      (p := .ofKeys ["paths",path,method,"responses"])).mp response
    obtain ⟨operation,above,_⟩ := (Pointer.resolve?_key_iff
      (p := .ofKeys ["paths",path,method])).mp responses
    exact ⟨_,(mem_allOperations distinct _).mpr ⟨path,method,operation,known,above,rfl⟩,
      _,(mem_responses distinct above).mpr ⟨status,_,response,rfl⟩,
      (mem_contentEntries distinct response).mpr ⟨v,found,rfl⟩⟩
  · rintro ⟨o,listed,r,declared,member⟩
    obtain ⟨path,method,operation,known,above,rfl⟩ := (mem_allOperations distinct _).mp listed
    obtain ⟨status,value,response,rfl⟩ := (mem_responses distinct above).mp declared
    obtain ⟨v,found,place⟩ := (mem_contentEntries distinct response).mp member
    dsimp only at found place
    subst place
    exact ⟨path,method,status,rfl,known,v,found⟩

/-- All responses of a Swagger operation have the same media types. -/
theorem mem_content_iff {op : Pointer} {ms : List (String × Json)}
    (found : op.resolve? root = some (.object ms)) (response : Pointer) (v : Json)
    {e : MediaTypeEntry} : e ∈ content .swagger root op ms response v ↔
      (∃ i, e.pointer = (listOf root op).index i) ∧
      e.pointer.resolve? root = some (.string e.mediaType) := by
  have entries {list : Pointer} {items : List Json}
      (array : list.resolve? root = some (.array items)) : e ∈ stringEntries list 0 items ↔
      (∃ i, e.pointer = list.index i) ∧ e.pointer.resolve? root = some (.string e.mediaType) := by
    rw [mem_stringEntries]
    constructor
    · rintro ⟨i,item,place⟩
      rw [Nat.zero_add] at place
      exact ⟨⟨i,place⟩,place ▸ Pointer.resolve?_index array item⟩
    · rintro ⟨⟨i,place⟩,text⟩
      rw [place,Pointer.resolve?_index_iff] at text
      obtain ⟨all,same,item⟩ := text
      obtain rfl : items = all := by simpa [array] using same
      exact ⟨i,item,by rw [place,Nat.zero_add]⟩
  unfold content
  cases own : produces? op ms with
  | some list =>
    obtain ⟨items,array,rfl⟩ := (produces?_eq_some_iff found).mp own
    simpa [listOf,array] using entries array
  | none =>
    have elsewhere : listOf root op = .ofKeys ["produces"] := by
      unfold listOf
      split
      · next items array =>
        have some := (produces?_eq_some_iff found).mpr ⟨items,array,rfl⟩
        simp [own] at some
      · rfl
    rw [elsewhere]
    cases shared : produces? .root (root.members?.getD []) with
    | some list =>
      obtain ⟨items,array,rfl⟩ := produces?_root.mp shared
      simpa using entries array
    | none =>
      simp only [Option.getD_none,List.not_mem_nil,false_iff]
      rintro ⟨⟨i,place⟩,text⟩
      rw [place,Pointer.resolve?_index_iff] at text
      obtain ⟨items,array,_⟩ := text
      have some := produces?_root.mpr ⟨items,array,rfl⟩
      simp [shared] at some

theorem uses_iff (distinct : root.Distinct) {op p : Pointer} {name : String} :
    Uses root op p name ↔ ∃ o ∈ (ofRoot .swagger root).allOperations, o.pointer = op ∧
      ∃ r ∈ o.responses, ⟨name,p⟩ ∈ r.content := by
  constructor
  · rintro ⟨⟨path,method,rfl,known⟩,⟨status,v,response⟩,entry,text⟩
    obtain ⟨statuses,responses,_⟩ := Pointer.resolve?_key_iff.mp response
    obtain ⟨operation,above,_⟩ := Pointer.resolve?_key_iff.mp responses
    have member := (mem_content_iff (e := ⟨name,p⟩) above
      (((Pointer.ofKeys ["paths",path,method]).key "responses").key status) v).mpr ⟨entry,text⟩
    exact ⟨_,(mem_allOperations distinct _).mpr ⟨path,method,operation,known,above,rfl⟩,rfl,
      _,(mem_responses distinct above).mpr ⟨status,v,response,rfl⟩,member⟩
  · rintro ⟨o,listed,rfl,r,declared,member⟩
    obtain ⟨path,method,operation,known,above,rfl⟩ := (mem_allOperations distinct _).mp listed
    obtain ⟨status,v,response,rfl⟩ := (mem_responses distinct above).mp declared
    obtain ⟨entry,text⟩ := (mem_content_iff above
      (((Pointer.ofKeys ["paths",path,method]).key "responses").key status) v).mp member
    exact ⟨⟨path,method,rfl,known⟩,⟨status,v,response⟩,entry,text⟩

end

/-- What the rule finds at one operation, a finding for each use. -/
def breachesOf (o : Operation) : List Finding :=
  ((o.responses.flatMap (·.content)).filter (isOffending ·.mediaType)).map
    fun e => ⟨description,e.pointer⟩

/-- What the rule finds, before repeated findings are dropped. -/
def breaches (root : Json) (dialect : Dialect) : List Finding :=
  (ofRoot dialect root).allOperations.flatMap breachesOf

theorem check_eq (d : Document) : check (.ofDocument d) =
    if (d.root.get? "paths").isSome then .findings (breaches d.root d.dialect)
    else .notApplicable := by
  have uses : ((Context.ofDocument d).mediaTypes.filter (isOffending ·.entry.mediaType)).map
      (fun u => (⟨description,u.entry.pointer⟩ : Finding)) = breaches d.root d.dialect := by
    have entries := Context.mediaTypes_entries (.ofDocument d)
    calc _ = (((Context.ofDocument d).mediaTypes.map (·.entry)).filter
          (isOffending ·.mediaType)).map fun e => (⟨description,e.pointer⟩ : Finding) := by
            simp [List.filter_map,Function.comp_def]
      _ = breaches d.root d.dialect := by
            rw [entries]
            unfold breaches breachesOf
            simp [Context.ofDocument,List.filter_flatMap,List.map_flatMap]
  rw [check,uses]
  rfl

theorem mem_breachesOf {o : Operation} {f : Finding} : f ∈ breachesOf o ↔
    f.description = description ∧
      ∃ r ∈ o.responses, ∃ name, isOffending name = true ∧ ⟨name,f.pointer⟩ ∈ r.content := by
  obtain ⟨text,p⟩ := f
  simp only [breachesOf,List.mem_map,List.mem_filter,List.mem_flatMap]
  constructor
  · rintro ⟨⟨name,_⟩,⟨⟨r,declared,member⟩,offends⟩,same⟩
    cases same
    exact ⟨rfl,r,declared,name,offends,member⟩
  · rintro ⟨rfl,r,declared,name,offends,member⟩
    exact ⟨⟨name,p⟩,⟨⟨r,declared,member⟩,offends⟩,rfl⟩

theorem mem_breaches {root : Json} {dialect : Dialect} {f : Finding} :
    f ∈ breaches root dialect ↔ f.description = description ∧
      ∃ o ∈ (ofRoot dialect root).allOperations, ∃ r ∈ o.responses, ∃ name,
        isOffending name = true ∧ ⟨name,f.pointer⟩ ∈ r.content := by
  simp only [breaches,List.mem_flatMap,mem_breachesOf]
  constructor
  · rintro ⟨o,listed,text,rest⟩
    exact ⟨text,o,listed,rest⟩
  · rintro ⟨text,o,listed,rest⟩
    exact ⟨o,listed,text,rest⟩

/-! In the newer dialect every name is found once, where it stands. -/
section
variable {root : Json}

theorem breachesOf_ordered (distinct : root.Distinct) {o : Operation}
    (listed : o ∈ (ofRoot .openApi3 root).allOperations) :
    (breachesOf o).Pairwise fun f g => Pointer.Precedes root f.pointer g.pointer := by
  obtain ⟨path,method,operation,_,above,rfl⟩ := (mem_allOperations distinct _).mp listed
  apply List.pairwise_map.mpr
  apply List.Pairwise.filter
  apply Pointer.ordered_flatMap (responses_ordered above _)
  · intro r declared
    obtain ⟨status,value,response,rfl⟩ := (mem_responses distinct above).mp declared
    exact contentEntries_ordered response
  · intro r declared e member
    obtain ⟨status,value,response,rfl⟩ := (mem_responses distinct above).mp declared
    obtain ⟨_,_,place⟩ := (mem_contentEntries distinct response).mp member
    rw [place]
    exact ((Pointer.Within.refl _).key _).key _

theorem breachesOf_within (distinct : root.Distinct) {o : Operation}
    (listed : o ∈ (ofRoot .openApi3 root).allOperations) {f : Finding} (member : f ∈ breachesOf o) :
    f.pointer.Within o.pointer := by
  obtain ⟨path,method,operation,_,above,rfl⟩ := (mem_allOperations distinct _).mp listed
  obtain ⟨_,r,declared,name,_,member⟩ := mem_breachesOf.mp member
  obtain ⟨status,value,response,rfl⟩ := (mem_responses distinct above).mp declared
  obtain ⟨_,_,place⟩ := (mem_contentEntries distinct response).mp member
  dsimp only at place
  rw [place]
  exact ((((Pointer.Within.refl _).key _).key _).key _).key _

theorem breaches_ordered (distinct : root.Distinct) : (breaches root .openApi3).Pairwise
    fun f g => Pointer.Precedes root f.pointer g.pointer := by
  apply Pointer.ordered_flatMap (allOperations_ordered distinct _)
  · intro o listed
    exact breachesOf_ordered distinct listed
  · intro o listed f member
    exact breachesOf_within distinct listed member

theorem breaches_distinct (distinct : root.Distinct) :
    Finding.distinct [] (breaches root .openApi3) = breaches root .openApi3 := by
  have places : ((breaches root .openApi3).map (·.pointer)).Nodup :=
    Pointer.nodup_of_ordered distinct (List.pairwise_map.mpr (breaches_ordered distinct))
  have once : (breaches root .openApi3).Nodup :=
    List.Pairwise.of_map _ (fun _ _ apart same => apart (congrArg Finding.pointer same)) places
  exact Finding.distinct_of_nodup once (by simp)

end

/-! In the older dialect an operation repeats its list for every response. -/
section
variable {root : Json}

theorem content_ordered {op : Pointer} {ms : List (String × Json)}
    (found : op.resolve? root = some (.object ms)) (response : Pointer) (v : Json) :
    (content .swagger root op ms response v).Pairwise fun a b =>
      Pointer.Precedes root a.pointer b.pointer := by
  unfold content
  cases own : produces? op ms with
  | some list =>
    obtain ⟨items,array,rfl⟩ := (produces?_eq_some_iff found).mp own
    exact stringEntries_ordered array 0 items
  | none =>
    cases shared : produces? .root (root.members?.getD []) with
    | some list =>
      obtain ⟨items,array,rfl⟩ := produces?_root.mp shared
      exact stringEntries_ordered array 0 items
    | none => exact .nil

theorem breachesOf_repeated (distinct : root.Distinct) {o : Operation}
    (listed : o ∈ (ofRoot .swagger root).allOperations) : ∃ list : List Finding,
      (list.Pairwise fun f g => Pointer.Precedes root f.pointer g.pointer) ∧
      breachesOf o = o.responses.flatMap fun _ => list := by
  obtain ⟨path,method,operation,_,above,rfl⟩ := (mem_allOperations distinct _).mp listed
  refine ⟨((content .swagger root (.ofKeys ["paths",path,method]) operation .root .null).filter
    (isOffending ·.mediaType)).map fun e => ⟨description,e.pointer⟩,?_,?_⟩
  · exact List.pairwise_map.mpr ((content_ordered above .root .null).filter _)
  · simp only [breachesOf,responses,content,List.filter_flatMap,List.map_flatMap,List.flatMap_map]

theorem within_first_copy {list others before after : List Finding} {f : Finding}
    (same : list ++ others = before ++ f :: after) (member : f ∈ list) (new : f ∉ before) :
    ∃ tail, list = before ++ f :: tail := by
  rcases List.append_eq_append_iff.mp same with ⟨more,split,_⟩ | ⟨more,split,tail⟩
  · exact absurd (split ▸ List.mem_append_left more member) new
  · cases more with
    | nil => exact absurd (by simpa [split] using member) new
    | cons g more =>
      obtain ⟨rfl,_⟩ := List.cons.inj tail
      exact ⟨more,split⟩

/-- At one operation the entries come up in the order of their list. -/
theorem breachesOf_first_used (distinct : root.Distinct) {o : Operation}
    (listed : o ∈ (ofRoot .swagger root).allOperations) {before after : List Finding}
    {f g : Finding} (split : breachesOf o = before ++ f :: after) (newLeft : f ∉ before)
    (apart : f ≠ g) (newRight : g ∉ before) (used : g ∈ breachesOf o) :
    Pointer.Precedes root f.pointer g.pointer := by
  obtain ⟨list,ordered,repeated⟩ := breachesOf_repeated distinct listed
  have member {x : Finding} (used : x ∈ breachesOf o) : x ∈ list := by
    rw [repeated] at used
    obtain ⟨_,_,member⟩ := List.mem_flatMap.mp used
    exact member
  have there : f ∈ breachesOf o := by simp [split]
  cases copies : o.responses with
  | nil => simp [repeated,copies] at there
  | cons r rest =>
    rw [repeated,copies,List.flatMap_cons] at split
    obtain ⟨tail,first⟩ := within_first_copy split (member there) newLeft
    have later : g ∈ tail := by
      have somewhere := member used
      rw [first,List.mem_append,List.mem_cons] at somewhere
      exact (somewhere.resolve_left newRight).resolve_left (Ne.symm apart)
    rw [first] at ordered
    exact (List.pairwise_cons.mp (List.pairwise_append.mp ordered).2.1).1 g later

theorem breaches_first_used (distinct : root.Distinct) :
    (Finding.distinct [] (breaches root .swagger)).Pairwise fun f g =>
      UsedBefore root f.pointer g.pointer := by
  refine (Finding.distinct_first_uses [] _).imp_of_mem ?_
  rintro f g _ inRight ⟨apart,_,after,same,newLeft,newRight⟩
  obtain ⟨left,o,right,ahead,behind,split,own,rfl⟩ := split_flatMap same
  have listed : o ∈ (ofRoot .swagger root).allOperations := by simp [split]
  have there : f ∈ breachesOf o := by simp [own]
  obtain ⟨_,r,declared,name,_,member⟩ := mem_breachesOf.mp there
  refine ⟨o.pointer,name,(uses_iff distinct).mpr ⟨o,listed,rfl,r,declared,member⟩,?_⟩
  intro op name' uses
  obtain ⟨o',listed',rfl,r',declared',member'⟩ := (uses_iff distinct).mp uses
  have used : g ∈ breachesOf o' := by
    obtain ⟨text,p,other,q,inside,name'',offends,entry⟩ :=
      mem_breaches.mp (Finding.mem_distinct.mp inRight).1
    have again := ((uses_iff distinct).mpr ⟨p,other,rfl,q,inside,entry⟩).text
    obtain rfl : name'' = name' := by simpa [again] using uses.text
    exact mem_breachesOf.mpr ⟨text,r',declared',_,offends,member'⟩
  rw [split,List.mem_append,List.mem_cons] at listed'
  rcases listed' with early | rfl | late
  · exact absurd (List.mem_append_left _ (List.mem_flatMap.mpr ⟨o',early,used⟩)) newRight
  · refine .inr ⟨rfl,breachesOf_first_used distinct listed own ?_ apart ?_ used⟩
    · exact fun old => newLeft (List.mem_append_right _ old)
    · exact fun old => newRight (List.mem_append_right _ old)
  · have ordered := allOperations_ordered distinct .swagger
    rw [split] at ordered
    exact .inl ((List.pairwise_cons.mp (List.pairwise_append.mp ordered).2.1).1 o' late)

end

/-- What the rule reports of a document. -/
def reported (d : Document) : List Pointer :=
  (Finding.distinct [] (breaches d.root d.dialect)).map (·.pointer)

theorem distinct_breaches (d : Document) :
    Finding.distinct [] (breaches d.root d.dialect) = (reported d).map (⟨description,·⟩) := by
  rw [reported,List.map_map]
  refine (List.map_id _).symm.trans (List.map_congr_left fun f member => ?_)
  obtain ⟨text,_⟩ := mem_breaches.mp (Finding.mem_distinct.mp member).1
  simp [← text]

theorem mem_reported {d : Document} {p : Pointer} : p ∈ reported d ↔
    ∃ o ∈ (ofRoot d.dialect d.root).allOperations, ∃ r ∈ o.responses, ∃ name,
      isOffending name = true ∧ ⟨name,p⟩ ∈ r.content := by
  simp only [reported,List.mem_map,Finding.mem_distinct,mem_breaches]
  constructor
  · rintro ⟨f,⟨⟨_,rest⟩,_⟩,rfl⟩
    exact rest
  · intro rest
    exact ⟨⟨description,p⟩,⟨⟨rfl,rest⟩,by simp⟩,rfl⟩

theorem reported_nodup (d : Document) : (reported d).Nodup := by
  refine List.pairwise_map.mpr ((Finding.distinct_nodup [] _).imp_of_mem ?_)
  rintro ⟨_,p⟩ ⟨_,q⟩ left right apart rfl
  obtain ⟨text,_⟩ := mem_breaches.mp (Finding.mem_distinct.mp left).1
  obtain ⟨text',_⟩ := mem_breaches.mp (Finding.mem_distinct.mp right).1
  exact apart (by rw [← text'] at text; exact congrArg (Finding.mk · p) text)

/-- Without the member that holds the paths there is nothing to report. -/
theorem reported_of_no_paths {d : Document} (none : d.root.get? "paths" = none) :
    reported d = [] := by
  simp [reported,breaches,allOperations,ofRoot,pathItems,none,Finding.distinct]

section
variable {e : RegisteredRule} (same : e.rule = rule)
include same

theorem violations_eq (d : Document) (check : Check) (listed : check ∈ e.rule.checks) :
    check.stage = .rules ∧ e.violations (.ofDocument d) check =
      (reported d).map fun p => .of "172" (e.severity none) ⟨description,p⟩ := by
  rw [same] at listed
  obtain rfl := List.mem_singleton.mp listed
  refine ⟨rfl,?_⟩
  simp only [RegisteredRule.violations,Check.run,check_eq,Check.kept,if_true,same]
  by_cases paths : (d.root.get? "paths").isSome
  · simp only [paths,if_true,distinct_breaches,List.map_map]
    rfl
  · have none := reported_of_no_paths (by simpa using paths)
    simp [paths,none]

theorem addsAll_eq (d : Document) : e.addsAll (.ofDocument d) e.rule.checks =
    ⟨[],(reported d).map fun p => .of "172" (e.severity none) ⟨description,p⟩,[]⟩ := by
  have only := violations_eq same d
  rw [same] at only ⊢
  obtain ⟨_,listed⟩ := only _ List.mem_cons_self
  simp only [RegisteredRule.addsAll,rule,List.map_cons,List.map_nil,Collected.concat_cons,
    Collected.concat_nil,Collected.append_empty,RegisteredRule.adds]
  rw [← listed]
  rfl

/-- Under its id a report has what the rule reports. -/
theorem violationsOf_lint {r : Registry} (built : r.Built) (found : r.get? "172" = some e)
    (enabled : e.enabled = true) (d : Document) : (r.lint d).violationsOf "172" =
      (reported d).map fun p => .of "172" (e.severity none) ⟨description,p⟩ := by
  rw [Registry.lint,Registry.violationsOf_lintContext built _ found,RegisteredRule.contribution,
    if_pos enabled,addsAll_eq same]
  rfl

theorem outcome_eq (enabled : e.enabled = true) (d : Document) : e.outcome (.ofDocument d) =
    if (d.root.get? "paths").isNone then .notApplicable
    else if reported d = [] then .passed else .violated (reported d).length := by
  rw [RegisteredRule.outcome,if_pos enabled,RegisteredRule.tally,addsAll_eq same]
  simp only [same,rule,List.any_cons,List.any_nil,Bool.or_false,Check.fails,Check.applies,
    Check.run,check_eq,Collected.size,List.length_nil,List.length_map,Nat.zero_add,Tally.outcome]
  cases paths : d.root.get? "paths" with
  | none => simp [reported_of_no_paths paths]
  | some v =>
    cases list : reported d with
    | nil => simp
    | cons p ps => simp

end

/-- What a report has of the rule: where, in which order, and how many. -/
structure Exact (d : Document) (report : Report) (severity : Severity) (ps : List Pointer) : Prop where
  violations : report.violationsOf "172" = ps.map fun p => .of "172" severity ⟨description,p⟩
  once : ps.Nodup
  declared : d.dialect = .openApi3 →
    ∀ p, p ∈ ps ↔ ∃ name, Declared d.root p name ∧ isOffending name = true
  ordered : d.dialect = .openApi3 → ps.Pairwise (Pointer.Precedes d.root)
  unrepeated : d.dialect = .openApi3 →
    ∀ list, check (.ofDocument d) = .findings list → Finding.distinct [] list = list
  used : d.dialect = .swagger →
    ∀ p, p ∈ ps ↔ ∃ op name, Uses d.root op p name ∧ isOffending name = true
  firstUsed : d.dialect = .swagger → ps.Pairwise (UsedBefore d.root)
  outcome : report.outcome? "172" = some (
    if (d.root.get? "paths").isNone then .notApplicable
    else if ps = [] then .passed else .violated ps.length)

/-- Wherever the rule is enabled it reports every offending media type once. -/
theorem violations_exact {r : Registry} (built : r.Built) {e : RegisteredRule}
    (found : r.get? "172" = some e) (same : e.rule = rule) (enabled : e.enabled = true)
    (d : Document) (distinct : d.root.Distinct) :
    ∃ ps, Exact d (r.lint d) (e.severity none) ps := by
  refine ⟨reported d,?_,reported_nodup d,fun newer p => ?_,fun newer => ?_,
    fun newer list done => ?_,fun older p => ?_,fun older => ?_,?_⟩
  · exact violationsOf_lint same built found enabled d
  · rw [mem_reported,newer]
    simp only [declared_iff distinct]
    constructor
    · rintro ⟨o,listed,r,declared,name,offends,member⟩
      exact ⟨name,⟨o,listed,r,declared,member⟩,offends⟩
    · rintro ⟨name,⟨o,listed,r,declared,member⟩,offends⟩
      exact ⟨o,listed,r,declared,name,offends,member⟩
  · rw [reported,newer,breaches_distinct distinct]
    exact List.pairwise_map.mpr (breaches_ordered distinct)
  · rw [check_eq,newer] at done
    split at done
    · cases done
      exact breaches_distinct distinct
    · cases done
  · rw [mem_reported,older]
    simp only [uses_iff distinct]
    constructor
    · rintro ⟨o,listed,r,declared,name,offends,member⟩
      exact ⟨o.pointer,name,⟨o,listed,rfl,r,declared,member⟩,offends⟩
    · rintro ⟨_,name,⟨o,listed,_,r,declared,member⟩,offends⟩
      exact ⟨o,listed,r,declared,name,offends,member⟩
  · rw [reported,older]
    exact List.pairwise_map.mpr (breaches_first_used distinct)
  · rw [Registry.lint,Registry.outcome?_lintContext,found,Option.map_some,outcome_eq same enabled]

/-- Two responses share the list of the root; another operation has a list of its own. -/
def sharedLists : Document where
  source := ""
  root := .object [("swagger",.string "2.0"),("produces",.array [.string "application/json",.string ""]),
    ("paths",.object [("/a",.object [
      ("get",.object [("responses",.object [("200",.object []),("404",.object [])])]),
      ("put",.object [("produces",.array [.string "",.null]),
        ("responses",.object [("200",.object [])])])])])]

theorem violations_exact_shared : ∃ ps, Exact sharedLists
    ((Registry.plainBuiltins (fun _ => .unreachable) {} .empty).lint sharedLists) .should ps :=
  violations_exact (e := ⟨rule,true,none⟩) (r := .plainBuiltins (fun _ => .unreachable) {} .empty)
    ((Registry.Built.empty.register _).register _) rfl rfl rfl sharedLists
    (by simp [sharedLists,Json.Distinct,Json.DistinctMembers,Json.DistinctItems])

end ApiReview.MediaTypes
