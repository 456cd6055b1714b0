import ApiReview.Proofs.Builtin
import ApiReview.Proofs.MediaTypes
import ApiReview.Proofs.Versioning

/-! Members that extend a description. Names that begin with `x-` are no methods, so that path items
and operations are read as if they were not there. Among the paths and among the responses of an
operation they are read like all others. -/
namespace ApiReview

namespace Json

/-- A member is added to the object that names lead to. -/
inductive Gains (name : String) (v : Json) : List String → Json → Json → Prop where
  | here (before after : List (String × Json)) :
    Gains name v [] (.object (before ++ after)) (.object (before ++ (name,v) :: after))
  | under {k : String} {keys : List String} {w w' : Json} (before after : List (String × Json)) :
    Gains name v keys w w' →
    Gains name v (k :: keys) (.object (before ++ (k,w) :: after)) (.object (before ++ (k,w') :: after))

section
variable {name k : String} {v w w' : Json}

theorem lookup_between (other : k ≠ name) (before after : List (String × Json)) :
    lookup k (before ++ (name,v) :: after) = lookup k (before ++ after) := by
  induction before with
  | nil => exact if_neg other.symm
  | cons m rest ih =>
    obtain ⟨l,u⟩ := m
    simp only [List.cons_append,lookup,ih]

/-- Of a member among others: its name leads to it, and to nothing where it is missing. -/
theorem lookup_apart (before after : List (String × Json))
    (distinct : ((before ++ (k,w) :: after).map Prod.fst).Nodup) :
    lookup k (before ++ (k,w) :: after) = some w ∧ lookup k (before ++ after) = none := by
  refine ⟨lookup_of_mem distinct (by simp),lookup_absent ?_⟩
  rw [List.map_append,List.map_cons] at distinct
  rw [List.map_append]
  exact (List.nodup_cons.mp (List.perm_middle.nodup_iff.mp distinct)).1

theorem Gains.distinct {keys : List String} {root root' : Json} (gains : Gains name v keys root root')
    (distinct : root'.Distinct) : root.Distinct := by
  induction gains with
  | here before after =>
    have fewer : (before ++ after).Sublist (before ++ (name,v) :: after) :=
      (List.sublist_cons_self _ _).append_left before
    refine ⟨distinct.1.sublist (fewer.map Prod.fst),distinctMembers_iff.mpr fun m member => ?_⟩
    exact distinctMembers_iff.mp distinct.2 m (fewer.subset member)
  | @under k keys w w' before after _ ih =>
    have values := distinctMembers_iff.mp distinct.2
    refine ⟨by simpa using distinct.1,distinctMembers_iff.mpr fun m member => ?_⟩
    rcases List.mem_append.mp member with first | member
    · exact values m (List.mem_append_left _ first)
    · rcases List.mem_cons.mp member with rfl | last
      · exact ih (values (k,w') (by simp))
      · exact values m (List.mem_append_right _ (List.mem_cons_of_mem _ last))

/-- One step down: the object is that of a member, and other members stay as they are. -/
theorem Gains.descend {keys : List String} (gains : Gains name v (k :: keys) w w')
    (distinct : w'.Distinct) : ∃ before after u u', w = .object (before ++ (k,u) :: after) ∧
      w' = .object (before ++ (k,u') :: after) ∧ Gains name v keys u u' ∧ u'.Distinct ∧
      w.get? k = some u ∧ w'.get? k = some u' ∧ ∀ other ≠ k, w'.get? other = w.get? other := by
  obtain _ | @⟨_,_,u,u',before,after,inner⟩ := gains
  have names : ((before ++ (k,u) :: after).map Prod.fst).Nodup := by simpa using distinct.1
  refine ⟨before,after,u,u',rfl,rfl,inner,?_,(lookup_apart before after names).1,
    (lookup_apart before after distinct.1).1,fun other apart => ?_⟩
  · exact distinctMembers_iff.mp distinct.2 (k,u') (by simp)
  · exact (lookup_between apart before after).trans (lookup_between apart before after).symm

theorem resolve?_cons (k : String) (keys : List String) (root : Json) :
    (Pointer.ofKeys (k :: keys)).resolve? root =
      (root.get? k).bind (Pointer.ofKeys keys).resolve? := by
  have split := Pointer.resolve?_append [.key k] (keys.map .key) root
  rw [List.singleton_append,Pointer.resolve?_single] at split
  cases root <;> exact split

/-- The place of the member is new. -/
theorem Gains.absent {keys : List String} {root root' : Json} (gains : Gains name v keys root root')
    (distinct : root'.Distinct) : (Pointer.ofKeys (keys ++ [name])).resolve? root = none := by
  induction keys generalizing root root' with
  | nil =>
    obtain ⟨before,after⟩ := gains
    rw [List.nil_append,resolve?_cons,Json.get?,(lookup_apart before after distinct.1).2]
    rfl
  | cons k keys ih =>
    obtain ⟨_,_,u,u',_,_,inner,below,here,_⟩ := gains.descend distinct
    rw [List.cons_append,resolve?_cons,here]
    exact ih inner below

end

end Json

namespace ApiModel
open Json (Gains)

/-- All responses of a description, in order. -/
def allResponses (dialect : Dialect) (root : Json) : List Response :=
  (ofRoot dialect root).allOperations.flatMap (·.responses)

section
variable (content : Pointer → List (String × Json) → Pointer → Json → List MediaTypeEntry)

/-- The responses of a member of a path item. -/
def responsesOf (base : Pointer) (m : String × Json) : List Response :=
  if isMethod m.1 then
    (m.2.members?.map fun operation =>
      responses (content (base.key m.1) operation) (base.key m.1) operation).getD []
  else []

/-- The responses of a member of the paths. -/
def responsesUnder (m : String × Json) : List Response :=
  (m.2.members?.getD []).flatMap (responsesOf content (.ofKeys ["paths",m.1]))

theorem operations_responses (base : Pointer) (item : List (String × Json)) :
    (operations content base item).flatMap (·.responses) = item.flatMap (responsesOf content base) := by
  induction item with
  | nil => rfl
  | cons m rest ih =>
    obtain ⟨name,value⟩ := m
    rw [List.flatMap_cons,← ih,responsesOf]
    simp only [operations,List.filterMap_cons]
    by_cases method : isMethod name = true
    · rw [if_pos method,if_pos method]
      cases value.members? <;> rfl
    · rw [if_neg method,if_neg method]
      rfl

end

theorem allResponses_eq (dialect : Dialect) (root : Json) : allResponses dialect root =
    (((root.get? "paths").bind Json.members?).getD []).flatMap
      (responsesUnder (content dialect root)) := by
  simp only [allResponses,allOperations,ofRoot,pathItems]
  induction ((root.get? "paths").bind Json.members?).getD [] with
  | nil => rfl
  | cons m rest ih =>
    obtain ⟨path,value⟩ := m
    rw [List.flatMap_cons,← ih,responsesUnder,List.filterMap_cons]
    cases value with
    | object item =>
      simp only [Json.members?,Option.map_some,List.flatMap_cons,List.flatMap_append]
      exact congrArg (· ++ _) (operations_responses _ _ item)
    | _ => rfl

/-- One list has what another has, and at one place new responses of some kind. -/
def Adds (P : Response → Prop) (less more : List Response) : Prop :=
  ∃ before new after, less = before ++ after ∧ more = before ++ (new ++ after) ∧ ∀ r ∈ new, P r

section
variable {P : Response → Prop} {α : Type} {f : α → List Response}

theorem Adds.refl (P : Response → Prop) (list : List Response) : Adds P list list :=
  ⟨list,[],[],by simp,by simp,by simp⟩

theorem Adds.between {a : α} (all : ∀ r ∈ f a, P r) (before after : List α) :
    Adds P ((before ++ after).flatMap f) ((before ++ a :: after).flatMap f) :=
  ⟨before.flatMap f,f a,after.flatMap f,List.flatMap_append,by simp,all⟩

theorem Adds.inside {a b : α} (adds : Adds P (f a) (f b)) (before after : List α) :
    Adds P ((before ++ a :: after).flatMap f) ((before ++ b :: after).flatMap f) := by
  obtain ⟨left,new,right,one,two,all⟩ := adds
  exact ⟨before.flatMap f ++ left,new,right ++ after.flatMap f,by simp [one],by simp [two],all⟩

end

/-- A name of an extension. -/
def Extending (name : String) : Prop := ∃ rest, name.toList = 'x' :: '-' :: rest

section
variable {name : String} {v : Json} (front : Extending name)
include front

theorem Extending.isMethod : isMethod name = false := by
  obtain ⟨rest,front⟩ := front
  have first : (lowerCase name).toList.head? = some 'x' := by
    rw [lowerCase,String.toList_map,front]
    rfl
  have others : ∀ method ∈ httpMethods, method.toList.head? ≠ some 'x' := by decide
  rw [ApiModel.isMethod,List.contains_eq_mem,decide_eq_false_iff_not]
  exact fun listed => others _ listed first

theorem Extending.ne_responses : "responses" ≠ name := by
  obtain ⟨rest,front⟩ := front
  rintro rfl
  simp at front

theorem Extending.ne_produces : "produces" ≠ name := by
  obtain ⟨rest,front⟩ := front
  rintro rfl
  simp at front

end

theorem content_congr {dialect : Dialect} {root : Json} {base : Pointer}
    {op op' : List (String × Json)} (same : Json.lookup "produces" op' = Json.lookup "produces" op) :
    content dialect root base op' = content dialect root base op := by
  cases dialect with
  | openApi3 => rfl
  | swagger =>
    funext response value
    simp only [content,produces?,same]

theorem content_root {dialect : Dialect} {ms ms' : List (String × Json)}
    (same : Json.lookup "produces" ms' = Json.lookup "produces" ms) :
    content dialect (.object ms') = content dialect (.object ms) := by
  cases dialect with
  | openApi3 => rfl
  | swagger =>
    funext base op response value
    simp only [content,Json.members?,Option.getD_some,produces?,same]

theorem responses_between {name : String} (front : Extending name) (v : Json) (dialect : Dialect)
    (root : Json) (base : Pointer) (before after : List (String × Json)) :
    responses (content dialect root base (before ++ (name,v) :: after)) base
        (before ++ (name,v) :: after) =
      responses (content dialect root base (before ++ after)) base (before ++ after) := by
  rw [content_congr (Json.lookup_between front.ne_produces before after)]
  simp only [responses,membersAt,Json.lookup_between front.ne_responses before after]

section
variable {P : Response → Prop} {name : String} {v w w' : Json} {dialect : Dialect} {root : Json}

/-- The rest of an operation does not look at the new member, and a path item leaves it out. -/
theorem operation_adds (front : Extending name) (gains : Gains name v [] w w') (base : Pointer)
    (method : String) : Adds P (responsesOf (content dialect root) base (method,w))
      (responsesOf (content dialect root) base (method,w')) := by
  obtain ⟨before,after⟩ := gains
  simp only [responsesOf,Json.members?,Option.map_some,responses_between front]
  exact .refl P _

theorem item_adds (front : Extending name) (gains : Gains name v [] w w') (path : String) :
    Adds P (responsesUnder (content dialect root) (path,w))
      (responsesUnder (content dialect root) (path,w')) := by
  obtain ⟨before,after⟩ := gains
  exact .between (by simp [responsesOf,front.isMethod]) before after

theorem membersAt_gains (distinct : w'.Distinct) (gains : Gains name v ["responses"] w w') :
    ∃ op op' left right, w = .object op ∧ w' = .object op' ∧
      membersAt "responses" op = left ++ right ∧
      membersAt "responses" op' = left ++ (name,v) :: right ∧
      Json.lookup "produces" op' = Json.lookup "produces" op := by
  obtain ⟨_,_,_,_,rfl,rfl,inner,_,less,more,others⟩ := gains.descend distinct
  obtain ⟨left,right⟩ := inner
  rw [Json.get?] at less more
  refine ⟨_,_,left,right,rfl,rfl,?_,?_,others "produces" (by decide)⟩
  · rw [membersAt,less]
    rfl
  · rw [membersAt,more]
    rfl

theorem responses_adds (dialect : Dialect) (root : Json) (distinct : w'.Distinct)
    (gains : Gains name v ["responses"] w w') (base : Pointer) (method : String) :
    Adds (·.pointer.Within (((base.key method).key "responses").key name))
      (responsesOf (content dialect root) base (method,w))
      (responsesOf (content dialect root) base (method,w')) := by
  obtain ⟨op,op',left,right,rfl,rfl,less,more,produces⟩ := membersAt_gains distinct gains
  by_cases known : isMethod method = true
  · simp only [responsesOf,if_pos known,Json.members?,Option.map_some,Option.getD_some,responses,
      less,more,content_congr produces]
    refine ⟨left.map _,[_],right.map _,List.map_append,List.map_append,fun r listed => ?_⟩
    obtain rfl := List.mem_singleton.mp listed
    exact .refl _
  · simp only [responsesOf,if_neg known]
    exact .refl _ _

/-- One step down: what a path item gets is what its member gets. -/
theorem under_adds {keys : List String} {method path : String}
    (distinct : w'.Distinct) (gains : Gains name v (method :: keys) w w')
    (inner : ∀ u u', u'.Distinct → Gains name v keys u u' →
      Adds P (responsesOf (content dialect root) (.ofKeys ["paths",path]) (method,u))
        (responsesOf (content dialect root) (.ofKeys ["paths",path]) (method,u'))) :
    Adds P (responsesUnder (content dialect root) (path,w))
      (responsesUnder (content dialect root) (path,w')) := by
  obtain ⟨before,after,u,u',rfl,rfl,gains,below,_⟩ := gains.descend distinct
  exact (inner u u' below gains).inside before after

end

section
variable {P : Response → Prop} {name : String} {v root root' : Json} {dialect : Dialect}

theorem allResponses_under (dialect : Dialect) {keys : List String} (distinct : root'.Distinct)
    (gains : Gains name v ("paths" :: keys) root root') : ∃ w w' : Json, w'.Distinct ∧
      Gains name v keys w w' ∧ allResponses dialect root =
        (w.members?.getD []).flatMap (responsesUnder (content dialect root)) ∧
      allResponses dialect root' =
        (w'.members?.getD []).flatMap (responsesUnder (content dialect root)) := by
  obtain ⟨_,_,w,w',rfl,rfl,inner,below,less,more,others⟩ := gains.descend distinct
  refine ⟨w,w',below,inner,?_,?_⟩
  · rw [allResponses_eq,less]
    rfl
  · rw [allResponses_eq,content_root (others "produces" (by decide)),more]
    rfl

theorem allResponses_path {keys : List String} {path : String} (distinct : root'.Distinct)
    (gains : Gains name v ("paths" :: path :: keys) root root')
    (inner : ∀ u u', u'.Distinct → Gains name v keys u u' →
      Adds P (responsesUnder (content dialect root) (path,u))
        (responsesUnder (content dialect root) (path,u'))) :
    Adds P (allResponses dialect root) (allResponses dialect root') := by
  obtain ⟨w,w',below,gains,less,more⟩ := allResponses_under dialect distinct gains
  obtain ⟨before,after,u,u',rfl,rfl,gains,below,_⟩ := gains.descend below
  rw [less,more]
  exact (inner u u' below gains).inside before after

theorem detect_gains {keys : List String} (distinct : root'.Distinct)
    (gains : Gains name v ("paths" :: keys) root root') :
    Dialect.detect root' = Dialect.detect root := by
  obtain ⟨_,_,_,_,_,_,_,_,_,_,others⟩ := gains.descend distinct
  rw [Dialect.detect,Dialect.detect,others "swagger" (by decide)]

theorem responsesUnder_within {content : Pointer → List (String × Json) → Pointer → Json →
    List MediaTypeEntry} {m : String × Json} {r : Response} (listed : r ∈ responsesUnder content m) :
    r.pointer.Within (.ofKeys ["paths",m.1]) := by
  obtain ⟨o,_,listed⟩ := List.mem_flatMap.mp listed
  unfold responsesOf at listed
  split at listed
  · cases object : o.2.members? with
    | none => simp [object] at listed
    | some operation =>
      simp only [object,Option.map_some,Option.getD_some,responses] at listed
      obtain ⟨status,_,rfl⟩ := List.mem_map.mp listed
      exact (((Pointer.Within.refl _).key o.1).key "responses").key status.1
  · cases listed

end

/-- Where a description may be extended. -/
inductive Site where
  | paths
  | item (path : String)
  | operation (path method : String)
  | responses (path method : String)

namespace Site

/-- The names that lead to the object. -/
def keys : Site → List String
  | paths => ["paths"]
  | item path => ["paths",path]
  | operation path method => ["paths",path,method]
  | responses path method => ["paths",path,method,"responses"]

/-- Whether members are read whatever their names. -/
def Open : Site → Prop
  | paths | responses _ _ => True
  | item _ | operation _ _ => False

/-- A new member adds the responses inside of it, if the object is one of those that are read whatever
the names, and nothing else. -/
theorem adds {site : Site} {name : String} {v root root' : Json} (front : Extending name)
    (distinct : root'.Distinct) (gains : Gains name v site.keys root root') (dialect : Dialect) :
    Adds (fun r => site.Open ∧ r.pointer.Within (.ofKeys (site.keys ++ [name])))
      (allResponses dialect root) (allResponses dialect root') := by
  cases site with
  | paths =>
    obtain ⟨w,w',_,inner,less,more⟩ := allResponses_under dialect distinct gains
    obtain ⟨before,after⟩ := inner
    rw [less,more]
    exact .between (fun r listed => ⟨trivial,responsesUnder_within listed⟩) before after
  | item path =>
    exact allResponses_path distinct gains fun _ _ _ inner => item_adds front inner path
  | operation path method =>
    refine allResponses_path distinct gains fun _ _ below inner => under_adds below inner ?_
    exact fun _ _ _ inner => operation_adds front inner _ method
  | responses path method =>
    refine allResponses_path distinct gains fun _ _ below inner => under_adds below inner ?_
    intro _ _ below inner
    obtain ⟨before,new,after,less,more,all⟩ := responses_adds dialect root below inner
      (.ofKeys ["paths",path]) method
    exact ⟨before,new,after,less,more,fun r listed => ⟨trivial,all r listed⟩⟩

end Site

/-- Responses are places of the description. -/
theorem allResponses_found {dialect : Dialect} {root : Json} (distinct : root.Distinct) {r : Response}
    (listed : r ∈ allResponses dialect root) : ∃ node, r.pointer.resolve? root = some node := by
  obtain ⟨o,inside,declared⟩ := List.mem_flatMap.mp listed
  obtain ⟨path,method,operation,_,above,rfl⟩ := (mem_allOperations distinct dialect).mp inside
  obtain ⟨status,value,found,rfl⟩ := (mem_responses distinct above).mp declared
  exact ⟨value,found⟩

end ApiModel

theorem Pointer.resolve?_within {p q : Pointer} {root node : Json} (inside : p.Within q)
    (found : p.resolve? root = some node) : ∃ outer, q.resolve? root = some outer := by
  obtain ⟨rest,split⟩ := inside
  have joined := resolve?_append q.segments rest root
  rw [split,show (⟨p.segments⟩ : Pointer).resolve? root = some node from found] at joined
  obtain ⟨outer,above,_⟩ := Option.bind_eq_some_iff.mp joined.symm
  exact ⟨outer,above⟩

namespace MediaTypes
open ApiModel
open Json (Gains)

/-- What the rule finds in responses, before repeated findings are dropped. -/
def offences (list : List Response) : List Finding :=
  ((list.flatMap (·.content)).filter (isOffending ·.mediaType)).map fun e => ⟨description,e.pointer⟩

theorem offences_append (list more : List Response) :
    offences (list ++ more) = offences list ++ offences more := by
  simp [offences]

theorem breaches_offences (root : Json) (dialect : Dialect) :
    breaches root dialect = offences (allResponses dialect root) := by
  have own (o : Operation) : breachesOf o = offences o.responses := rfl
  have joined (list : List Operation) :
      list.flatMap breachesOf = offences (list.flatMap (·.responses)) := by
    induction list with
    | nil => rfl
    | cons o rest ih => rw [List.flatMap_cons,List.flatMap_cons,offences_append,ih,own]
  exact joined _

/-- What the built-in rules report of media types, if that rule is enabled. -/
theorem violationsOf_builtins {server : Remote.Server} {cache : Remote.Cache} {config : Config}
    {r : Registry} (accepted : Registry.builtins server cache config = .ok r) {e : RegisteredRule}
    (found : r.get? "172" = some e) (enabled : e.enabled = true) (d : Document) :
    (r.lint d).violationsOf "172" =
      (Finding.distinct [] (breaches d.root d.dialect)).map (Violation.of "172" (e.severity none)) := by
  have same : e.rule = rule := Registry.builtins_mediaTypes accepted found
  rw [violationsOf_lint same (Registry.builtins_built accepted) found enabled,distinct_breaches,
    List.map_map]
  rfl

theorem of_injective {id : String} {severity : Severity} {f g : Finding}
    (same : Violation.of id severity f = .of id severity g) : f = g := by
  obtain ⟨_,_⟩ := f
  cases same
  rfl

/-- A new member of a path item or of an operation changes nothing that the rule reports, if its name
begins with `x-`. A new member of the paths or of the responses of an operation adds the responses
that are read inside of it, at one place and no others. What is reported stays the same if and only if
the findings in those responses are the first new ones there anyway; in the newer dialect, if and only
if there are none. -/
theorem extension_inert_iff {site : Site} {name : String} {v : Json} {d d' : Document}
    (front : Extending name) (gains : Gains name v site.keys d.root d'.root)
    (distinct : d'.root.Distinct) {server : Remote.Server} {cache : Remote.Cache} {config : Config}
    {r : Registry} (accepted : Registry.builtins server cache config = .ok r) {e : RegisteredRule}
    (found : r.get? "172" = some e) (enabled : e.enabled = true) :
    ∃ before inside after, allResponses d.dialect d.root = before ++ after ∧
      allResponses d'.dialect d'.root = before ++ (inside ++ after) ∧
      (∀ one ∈ inside, one.pointer.Within (.ofKeys (site.keys ++ [name]))) ∧
      (∀ one ∈ before ++ after, ¬ one.pointer.Within (.ofKeys (site.keys ++ [name]))) ∧
      (¬ site.Open → inside = [] ∧
        (r.lint d').violationsOf "172" = (r.lint d).violationsOf "172") ∧
      ((r.lint d').violationsOf "172" = (r.lint d).violationsOf "172" ↔
        Finding.distinct (offences before) (offences inside) <+:
          Finding.distinct (offences before) (offences after)) ∧
      (d.dialect = .openApi3 →
        ((r.lint d').violationsOf "172" = (r.lint d).violationsOf "172" ↔ offences inside = [])) := by
  have dialect : d'.dialect = d.dialect := by
    cases site <;> exact detect_gains distinct gains
  obtain ⟨before,inside,after,less,more,all⟩ := Site.adds front distinct gains d.dialect
  have reported : (r.lint d').violationsOf "172" = (r.lint d).violationsOf "172" ↔
      Finding.distinct [] (offences (before ++ (inside ++ after))) =
        Finding.distinct [] (offences (before ++ after)) := by
    rw [violationsOf_builtins accepted found enabled,violationsOf_builtins accepted found enabled,
      dialect,breaches_offences,breaches_offences,less,more]
    exact List.map_inj_right fun _ _ => of_injective
  have first := Finding.distinct_between_iff (offences before) (offences inside) (offences after)
  rw [← offences_append,← offences_append,← offences_append,← reported] at first
  refine ⟨before,inside,after,less,dialect ▸ more,fun one listed => (all one listed).2,?_,?_,first,?_⟩
  · intro one listed within
    obtain ⟨node,there⟩ := allResponses_found (gains.distinct distinct) (less ▸ listed)
    obtain ⟨outer,above⟩ := Pointer.resolve?_within within there
    rw [gains.absent distinct] at above
    cases above
  · intro closed
    have none : inside = [] := List.eq_nil_iff_forall_not_mem.mpr fun one listed =>
      closed (all one listed).1
    exact ⟨none,first.mpr (by simp [none,offences,Finding.distinct])⟩
  · intro newer
    have whole := breaches_distinct distinct
    have part := breaches_distinct (gains.distinct distinct)
    rw [breaches_offences,← newer,more] at whole
    rw [breaches_offences,← newer,less] at part
    rw [reported,whole,part,offences_append,offences_append,offences_append,List.append_right_inj]
    exact List.append_left_eq_self

/-- A description with one operation, and with members besides it and among its responses. -/
def oneOperation (item responses : List (String × Json)) : Document where
  source := ""
  root := .object [("paths",.object [("/a",.object
    (("get",.object [("responses",.object (("200",.object []) :: responses))]) :: item))])]

/-- What looks like a response, with a media type that is not JSON. -/
def likeResponse : Json := .object [("content",.object [("text/plain",.object [])])]

theorem extension_inert_iff_item :
    let v : Json := .object [("responses",.object [("200",likeResponse)])]
    let r := Registry.plainBuiltins (fun _ => .unreachable) {} .empty
    Extending "x-get" ∧
    Gains "x-get" v (Site.item "/a").keys (oneOperation [] []).root
      (oneOperation [("x-get",v)] []).root ∧
    (oneOperation [("x-get",v)] []).root.Distinct ∧
    Registry.builtins (fun _ => .unreachable) .empty {} = .ok r ∧
    (r.get? "172").map (·.enabled) = some true ∧
    (r.lint (oneOperation [("x-get",v)] [])).violationsOf "172" =
      (r.lint (oneOperation [] [])).violationsOf "172" := by
  intro v r
  have front : Extending "x-get" := ⟨['g','e','t'],rfl⟩
  have gains : Gains "x-get" v (Site.item "/a").keys (oneOperation [] []).root
      (oneOperation [("x-get",v)] []).root := .under [] [] (.under [] [] (.here [_] []))
  have distinct : (oneOperation [("x-get",v)] []).root.Distinct := by
    simp [oneOperation,v,likeResponse,Json.Distinct,Json.DistinctMembers]
  have accepted : Registry.builtins (fun _ => .unreachable) .empty {} = .ok r := rfl
  obtain ⟨_,_,_,_,_,_,_,same,_⟩ := extension_inert_iff front gains distinct accepted
    (e := ⟨rule,true,none⟩) rfl rfl
  exact ⟨front,gains,distinct,accepted,rfl,(same id).2⟩

/-- A response to no status is reported all the same. -/
theorem extension_reported :
    let r := Registry.plainBuiltins (fun _ => .unreachable) {} .empty
    Extending "x-more" ∧
    Gains "x-more" likeResponse (Site.responses "/a" "get").keys (oneOperation [] []).root
      (oneOperation [] [("x-more",likeResponse)]).root ∧
    (oneOperation [] [("x-more",likeResponse)]).root.Distinct ∧
    (r.lint (oneOperation [] [])).violationsOf "172" = [] ∧
    ((r.lint (oneOperation [] [("x-more",likeResponse)])).violationsOf "172").map (·.pointer) =
      [.ofKeys ["paths","/a","get","responses","x-more","content","text/plain"]] := by
  intro r
  have accepted : Registry.builtins (fun _ => .unreachable) .empty {} = .ok r := rfl
  have reported := violationsOf_builtins accepted (e := ⟨rule,true,none⟩) rfl rfl
  have offends : isOffending "text/plain" = true := by
    have unversioned : isVersioned "text/plain" = false :=
      Bool.eq_false_iff.mpr fun versioned => absurd (parameter_of_isVersioned versioned) (by decide)
    have named : isStandardJson "text/plain" = false :=
      Bool.eq_false_iff.mpr fun named => absurd (isStandardJson_iff.mp named) (by decide)
    rw [isOffending,named,unversioned]
    rfl
  have found : breaches (oneOperation [] [("x-more",likeResponse)]).root .openApi3 =
      [⟨description,.ofKeys ["paths","/a","get","responses","x-more","content","text/plain"]⟩] := by
    have content : (allResponses .openApi3 (oneOperation [] [("x-more",likeResponse)]).root).flatMap
        (·.content) = [⟨"text/plain",
          .ofKeys ["paths","/a","get","responses","x-more","content","text/plain"]⟩] := by
      decide +kernel
    rw [breaches_offences,offences,content]
    simp [offends]
  refine ⟨⟨['m','o','r','e'],rfl⟩,
    .under [] [] (.under [] [] (.under [] [] (.under [] [] (.here [_] [])))),?_,?_,?_⟩
  · simp [oneOperation,likeResponse,Json.Distinct,Json.DistinctMembers]
  · rw [reported]
    decide +kernel
  · have newer : (oneOperation [] [("x-more",likeResponse)]).dialect = .openApi3 := by decide
    rw [reported,newer,found]
    rfl

end MediaTypes
end ApiReview
