import ApiReview.Proofs.MediaTypes
import Mathlib.Data.List.Basic

/-! Descriptions of the older dialect in the newer one. A translation moves the media types from the
lists of operations into their responses; the model has the same nodes before and after. -/
namespace ApiReview

namespace Json

/-- Other members for an object. -/
def mapObject (f : List (String × Json) → List (String × Json)) : Json → Json
  | .object ms => .object (f ms)
  | v => v

/-- Other values for members, by their names. -/
def mapValues (f : String → Json → Json) (ms : List (String × Json)) : List (String × Json) :=
  ms.map fun m => (m.1,f m.1 m.2)

section
variable {f : List (String × Json) → List (String × Json)} {v : Json}

theorem mapObject_distinct (distinct : v.Distinct)
    (members : ∀ ms, (Json.object ms).Distinct → (Json.object (f ms)).Distinct) :
    (mapObject f v).Distinct := by
  cases v with
  | object ms => exact members ms distinct
  | _ => exact distinct

end

section
variable (f : String → Json → Json) (name : String) (ms : List (String × Json))

theorem lookup_mapValues : lookup name (mapValues f ms) = (lookup name ms).map (f name) := by
  induction ms with
  | nil => rfl
  | cons m rest ih =>
    obtain ⟨k,w⟩ := m
    rw [mapValues,List.map_cons,lookup,lookup]
    by_cases same : k = name
    · simp [same]
    · rw [if_neg same,if_neg same]
      exact ih

theorem mapValues_distinct (distinct : (Json.object ms).Distinct)
    (values : ∀ name v, v.Distinct → (f name v).Distinct) :
    (Json.object (mapValues f ms)).Distinct := by
  obtain ⟨names,members⟩ := distinct
  refine ⟨by simpa [mapValues,Function.comp_def] using names,distinctMembers_iff.mpr ?_⟩
  intro m inside
  obtain ⟨before,listed,rfl⟩ := List.mem_map.mp inside
  exact values _ _ (distinctMembers_iff.mp members before listed)

theorem filter_distinct (p : String × Json → Bool) (distinct : (Json.object ms).Distinct) :
    (Json.object (ms.filter p)).Distinct := by
  obtain ⟨names,members⟩ := distinct
  refine ⟨names.sublist (List.filter_sublist.map Prod.fst),distinctMembers_iff.mpr fun m inside => ?_⟩
  exact distinctMembers_iff.mp members m (List.mem_filter.mp inside).1

theorem lookup_dropped (other : String) : lookup other (ms.filter (·.1 ≠ name)) =
    if other = name then none else lookup other ms := by
  induction ms with
  | nil => simp [lookup]
  | cons m rest ih =>
    obtain ⟨k,w⟩ := m
    by_cases dropped : k = name
    · rw [List.filter_cons_of_neg (by simpa using dropped),ih,lookup]
      by_cases here : other = name
      · rw [if_pos here,if_pos here]
      · have apart : k ≠ other := fun same => here (same.symm.trans dropped)
        rw [if_neg here,if_neg here,if_neg apart]
    · rw [List.filter_cons_of_pos (by simpa using dropped),lookup,ih,lookup]
      by_cases found : k = other
      · have apart : other ≠ name := found ▸ dropped
        simp [found,apart]
      · simp [found]

theorem lookup_insert_self (v : Json) : lookup name (insert name v ms) = some v := by
  induction ms with
  | nil => simp [insert,lookup]
  | cons m rest ih =>
    obtain ⟨k,w⟩ := m
    by_cases same : k = name <;> simp [insert,lookup,same,ih]

end

end Json

namespace ApiModel

/-- The texts of a `produces` list, if there is one. -/
def producedTypes? (ms : List (String × Json)) : Option (List String) :=
  ((Json.lookup "produces" ms).bind Json.items?).map (·.filterMap Json.string?)

/-- The media types of an operation of the older dialect: its own, else those of the root. -/
def effectiveTypes (root : Json) (operation : List (String × Json)) : List String :=
  (producedTypes? operation).getD ((producedTypes? (root.members?.getD [])).getD [])

/-- The objects under a name have other members. -/
def within (name : String) (f : List (String × Json) → List (String × Json)) :
    List (String × Json) → List (String × Json) :=
  Json.mapValues fun k v => if k = name then v.mapObject f else v

section
variable (described : String → Json) (root : Json)

/-- A member for each of some media types. -/
def contentOf (types : List String) : List (String × Json) :=
  types.foldl (fun ms t => Json.insert t (described t) ms) []

/-- A response that declares media types by itself. -/
def translateResponse (types : List String) : Json → Json :=
  .mapObject (Json.insert "content" (.object (contentOf described types)))

def translateOperation (operation : List (String × Json)) : List (String × Json) :=
  within "responses"
    (Json.mapValues fun _ => translateResponse described (effectiveTypes root operation)) operation

def translateItem : List (String × Json) → List (String × Json) :=
  Json.mapValues fun name v =>
    if isMethod name then v.mapObject (translateOperation described root) else v

/-- The description in the newer dialect. What it says of a media type is up to the translation. -/
def translate : Json :=
  root.mapObject fun ms => within "paths"
    (Json.mapValues fun _ => .mapObject (translateItem described root)) (ms.filter (·.1 ≠ "swagger"))

end

section
variable {described : String → Json} {root : Json}

theorem stringEntries_types (base : Pointer) (position : Nat) (items : List Json) :
    (stringEntries base position items).map (·.mediaType) = items.filterMap Json.string? := by
  induction items generalizing position with
  | nil => rfl
  | cons v rest ih =>
    cases v with
    | string s => simp [stringEntries,Json.string?,ih]
    | _ => exact ih (position + 1)

theorem produces?_types (base : Pointer) (ms : List (String × Json)) :
    (produces? base ms).map (·.map (·.mediaType)) = producedTypes? ms := by
  rw [produces?,producedTypes?,Option.map_map]
  exact congrArg (Option.map · _) (funext fun items => stringEntries_types _ 0 items)

/-- The older dialect gives all responses of an operation the same media types. -/
theorem content_types (base : Pointer) (operation : List (String × Json)) (place : Pointer)
    (v : Json) : (content .swagger root base operation place v).map (·.mediaType) =
      effectiveTypes root operation := by
  rw [effectiveTypes,← produces?_types base operation,← produces?_types .root,content]
  cases produces? base operation with
  | some entries => rfl
  | none => cases produces? .root (root.members?.getD []) <;> rfl

/-- Without repetition each media type becomes a member of its own, in order. -/
theorem contentOf_eq {types : List String} (once : types.Nodup) :
    contentOf described types = types.map fun t => (t,described t) := by
  have all (before : List (String × Json)) (apart : (before.map Prod.fst ++ types).Nodup) :
      types.foldl (fun ms t => Json.insert t (described t) ms) before =
        before ++ types.map fun t => (t,described t) := by
    induction types generalizing before with
    | nil => simp
    | cons t rest ih =>
      have new : t ∉ before.map Prod.fst := fun old =>
        (List.nodup_append.mp apart).2.2 t old t List.mem_cons_self rfl
      have later : ((before ++ [(t,described t)]).map Prod.fst ++ rest).Nodup := by simpa using apart
      rw [List.foldl_cons,Json.insert_new new,ih (List.nodup_cons.mp once).2 _ later]
      simp
  exact all [] (by simpa using once)

/-- A translated response has the media types that it is translated with. -/
theorem translateResponse_types {types : List String} (once : types.Nodup) (place : Pointer) {v : Json}
    (object : v.isObject = true) :
    (contentEntries place (translateResponse described types v)).map (·.mediaType) = types := by
  cases v with
  | object ms =>
    have found : (translateResponse described types (.object ms)).get? "content" =
        some (.object (types.map fun t => (t,described t))) := by
      simp only [translateResponse,Json.mapObject,Json.get?,Json.lookup_insert_self,
        contentOf_eq once]
    simp [contentEntries,found,Json.members?,Function.comp_def]
  | _ => cases object

end
end ApiModel

/-! A model without the places of its media types, which are other ones in the two dialects. -/

def Response.unplaced (r : Response) : Response :=
  { r with content := r.content.map fun e => ⟨e.mediaType,.root⟩ }

theorem Response.unplaced_eq (status : String) (pointer : Pointer)
    {content content' : List MediaTypeEntry}
    (same : content.map (·.mediaType) = content'.map (·.mediaType)) :
    (⟨status,pointer,content⟩ : Response).unplaced = (⟨status,pointer,content'⟩ : Response).unplaced := by
  have named (list : List MediaTypeEntry) : list.map (fun e => (⟨e.mediaType,.root⟩ : MediaTypeEntry)) =
      (list.map (·.mediaType)).map (⟨·,.root⟩) := by rw [List.map_map]; rfl
  simp only [unplaced,named,same]

def Operation.unplaced (o : Operation) : Operation :=
  { o with responses := o.responses.map (·.unplaced) }

def PathItem.unplaced (item : PathItem) : PathItem :=
  { item with operations := item.operations.map (·.unplaced) }

namespace ApiModel
section
variable {described : String → Json} {root : Json}

/-- An operation whose responses can declare its media types. -/
structure Movable (root : Json) (operation : List (String × Json)) : Prop where
  once : (effectiveTypes root operation).Nodup
  objects : ∀ m ∈ membersAt "responses" operation, m.2.isObject = true

theorem members_below (f : String → Json → Json) (found : Option Json) :
    ((found.map (.mapObject (Json.mapValues f))).bind Json.members?).getD [] =
      Json.mapValues f ((found.bind Json.members?).getD []) := by
  cases found with
  | none => rfl
  | some v => cases v <;> rfl

theorem membersAt_within (name : String) (f : String → Json → Json) (ms : List (String × Json)) :
    membersAt name (within name (Json.mapValues f) ms) = Json.mapValues f (membersAt name ms) := by
  rw [membersAt,within,Json.lookup_mapValues,membersAt,← members_below]
  simp only [if_true]

end

section
variable (described : String → Json) {root : Json}

theorem responses_translate {operation : List (String × Json)} (movable : Movable root operation)
    (base : Pointer) :
    (responses contentEntries base (translateOperation described root operation)).map (·.unplaced) =
      (responses (content .swagger root base operation) base operation).map (·.unplaced) := by
  rw [responses,responses,translateOperation,membersAt_within,Json.mapValues,List.map_map,
    List.map_map,List.map_map]
  refine List.map_congr_left fun m inside => Response.unplaced_eq _ _ ?_
  rw [content_types,translateResponse_types movable.once _ (movable.objects m inside)]

theorem operations_translate {item : List (String × Json)} (root' : Json)
    (movable : ∀ name operation, (name,.object operation) ∈ item → isMethod name = true →
      Movable root operation) (base : Pointer) :
    (operations (content .openApi3 root') base (translateItem described root item)).map (·.unplaced) =
      (operations (content .swagger root) base item).map (·.unplaced) := by
  rw [operations,operations,translateItem,Json.mapValues,List.filterMap_map,List.map_filterMap,
    List.map_filterMap]
  refine List.filterMap_congr fun m inside => ?_
  obtain ⟨name,value⟩ := m
  simp only [Function.comp_apply]
  cases method : isMethod name with
  | false => simp
  | true =>
    cases value with
    | object operation =>
      have same := responses_translate described (movable name operation inside method)
        (base.key name)
      exact congrArg (fun list => some (⟨lowerCase name,base.key name,list⟩ : Operation)) same
    | _ => rfl

theorem get?_translate (name : String) : (translate described root).get? name =
    if name = "swagger" then none else (root.get? name).map fun v => if name = "paths" then
      v.mapObject (Json.mapValues fun _ => .mapObject (translateItem described root)) else v := by
  cases root with
  | object ms =>
    rw [translate,Json.mapObject,Json.get?,within,Json.lookup_mapValues,Json.lookup_dropped]
    by_cases dropped : name = "swagger"
    · rw [if_pos dropped,if_pos dropped]
      rfl
    · rw [if_neg dropped,if_neg dropped]
      rfl
  | _ => simp [translate,Json.mapObject,Json.get?]

theorem pathItems_translate (movable : ∀ path item name operation,
      (path,.object item) ∈ (((root.get? "paths").bind Json.members?).getD []) →
      (name,.object operation) ∈ item → isMethod name = true → Movable root operation) :
    (ofRoot .openApi3 (translate described root)).paths.map (·.unplaced) =
      (ofRoot .swagger root).paths.map (·.unplaced) := by
  have paths : (((translate described root).get? "paths").bind Json.members?).getD [] =
      Json.mapValues (fun _ => .mapObject (translateItem described root))
        (((root.get? "paths").bind Json.members?).getD []) := by
    rw [get?_translate,if_neg (by decide),← members_below]
    simp only [if_true]
  rw [ofRoot,ofRoot,pathItems,pathItems,paths,Json.mapValues,List.filterMap_map,
    List.map_filterMap,List.map_filterMap]
  refine List.filterMap_congr fun m inside => ?_
  obtain ⟨path,value⟩ := m
  cases value with
  | object item =>
    have same := operations_translate described (translate described root)
      (movable path item · · inside) ((Pointer.root.key "paths").key path)
    exact congrArg (fun list => some (⟨path,(Pointer.root.key "paths").key path,list⟩ : PathItem)) same
  | _ => rfl

end

section
variable {described : String → Json} {root : Json}

theorem within_distinct (name : String) {f : List (String × Json) → List (String × Json)}
    (members : ∀ ms, (Json.object ms).Distinct → (Json.object (f ms)).Distinct)
    {ms : List (String × Json)} (distinct : (Json.object ms).Distinct) :
    (Json.object (within name f ms)).Distinct := by
  refine Json.mapValues_distinct _ ms distinct fun k v apart => ?_
  split
  · exact Json.mapObject_distinct apart members
  · exact apart

theorem contentOf_distinct (plain : ∀ t, (described t).Distinct) (types : List String) :
    (Json.object (contentOf described types)).Distinct := by
  have all (before : List (String × Json)) (apart : (Json.object before).Distinct) :
      (Json.object (types.foldl (fun ms t => Json.insert t (described t) ms) before)).Distinct := by
    induction types generalizing before with
    | nil => exact apart
    | cons t rest ih => exact ih _ (Json.insert_distinct apart (plain t))
  exact all [] ⟨.nil,trivial⟩

/-- A translation has no repeated names where the description has none. -/
theorem translate_distinct (distinct : root.Distinct) (plain : ∀ t, (described t).Distinct) :
    (translate described root).Distinct := by
  have operation (ms : List (String × Json)) (apart : (Json.object ms).Distinct) :
      (Json.object (translateOperation described root ms)).Distinct := by
    refine within_distinct "responses" (fun rs apart => ?_) apart
    refine Json.mapValues_distinct _ rs apart fun _ v apart => ?_
    refine Json.mapObject_distinct apart fun ms apart => ?_
    exact Json.insert_distinct apart (contentOf_distinct plain _)
  have item (ms : List (String × Json)) (apart : (Json.object ms).Distinct) :
      (Json.object (translateItem described root ms)).Distinct := by
    refine Json.mapValues_distinct _ ms apart fun name v apart => ?_
    split
    · exact Json.mapObject_distinct apart operation
    · exact apart
  refine Json.mapObject_distinct distinct fun ms apart => ?_
  refine within_distinct "paths" (fun ps apart => ?_) (Json.filter_distinct ms _ apart)
  exact Json.mapValues_distinct _ ps apart fun _ v apart => Json.mapObject_distinct apart item

end

/-- A list of texts that are all different. -/
def TypeList (v : Json) : Prop := ∃ types : List String, types.Nodup ∧ v = .array (types.map .string)

/-- A description of the older dialect that the newer one can say the same of: lists of media types
are lists of different texts, and what operations respond with are objects. -/
structure Translatable (root : Json) : Prop where
  older : Dialect.detect root = .swagger
  shared : ∀ v, (Pointer.ofKeys ["produces"]).resolve? root = some v → TypeList v
  own : ∀ path method v, isMethod method = true →
    (Pointer.ofKeys ["paths",path,method,"produces"]).resolve? root = some v → TypeList v
  responses : ∀ path method status v, isMethod method = true →
    (Pointer.ofKeys ["paths",path,method,"responses",status]).resolve? root = some v →
      v.isObject = true

section
variable {root : Json}

/-- What stands under `produces` is what is read of it. -/
theorem producedTypes?_nodup {ms : List (String × Json)}
    (list : ∀ v, Json.lookup "produces" ms = some v → TypeList v) {types : List String}
    (found : producedTypes? ms = some types) : types.Nodup := by
  obtain ⟨items,below,rfl⟩ := Option.map_eq_some_iff.mp found
  obtain ⟨v,there,array⟩ := Option.bind_eq_some_iff.mp below
  obtain ⟨texts,once,rfl⟩ := list v there
  obtain rfl : texts.map Json.string = items := Option.some.inj array
  have same : (texts.map Json.string).filterMap Json.string? = texts := by
    rw [List.filterMap_map]
    exact List.filterMap_some
  rwa [same]

theorem Translatable.movable (fit : Translatable root) (distinct : root.Distinct) {path name : String}
    {item operation : List (String × Json)}
    (listed : (path,.object item) ∈ (((root.get? "paths").bind Json.members?).getD []))
    (inside : (name,.object operation) ∈ item) (method : isMethod name = true) :
    Movable root operation := by
  have above : (Pointer.ofKeys ["paths",path]).resolve? root = some (.object item) :=
    (mem_below distinct (Pointer.resolve?_root root) "paths").mp listed
  have apart := distinct.walk (Pointer.walk_iff.mp above)
  have found : (Pointer.ofKeys ["paths",path,name]).resolve? root = some (.object operation) :=
    Pointer.resolve?_key above (Json.lookup_of_mem apart.1 inside)
  have own : ∀ v, Json.lookup "produces" operation = some v → TypeList v := fun v there =>
    fit.own path name v method (Pointer.resolve?_key found there)
  have shared : ∀ v, Json.lookup "produces" (root.members?.getD []) = some v → TypeList v := by
    intro v there
    cases root with
    | object ms => exact fit.shared v (Pointer.resolve?_key (Pointer.resolve?_root _) there)
    | _ => cases there
  refine ⟨?_,fun m member => ?_⟩
  · rw [effectiveTypes]
    cases ofOperation : producedTypes? operation with
    | some types => exact producedTypes?_nodup own ofOperation
    | none =>
      cases ofRoot : producedTypes? (root.members?.getD []) with
      | some types => exact producedTypes?_nodup shared ofRoot
      | none => exact .nil
  · exact fit.responses path name m.1 m.2 method ((mem_below distinct found "responses").mp member)

end
end ApiModel

/-- A media type of a response by names alone: the path, the method, the status, the type. -/
def MediaTypeUse.named (u : MediaTypeUse) : String × String × String × String :=
  (u.path,u.method,u.status,u.entry.mediaType)

/-- The names are those of the model without places. -/
theorem Context.mediaTypes_named (c : Context) : c.mediaTypes.map (·.named) =
    (c.api.paths.map (·.unplaced)).flatMap fun item => item.operations.flatMap fun o =>
      o.responses.flatMap fun r => r.content.map fun e => (item.path,o.method,r.status,e.mediaType) := by
  simp [Context.mediaTypes,List.map_flatMap,List.flatMap_map,PathItem.unplaced,Operation.unplaced,
    Response.unplaced,MediaTypeUse.named,Function.comp_def]

namespace MediaTypes
open ApiModel

/-- The media types whose places a report names under the rule's id. -/
def faulted (c : Context) (report : Report) : List MediaTypeUse :=
  c.mediaTypes.filter fun u => (report.violationsOf "172").any (·.pointer = u.entry.pointer)

/-- A name is given to a media type at a place. -/
def Names (d : Document) (name : String) (p : Pointer) : Prop :=
  ∃ o ∈ (ofRoot d.dialect d.root).allOperations, ∃ r ∈ o.responses, ⟨name,p⟩ ∈ r.content

theorem names_of_use {d : Document} {u : MediaTypeUse} (used : u ∈ (Context.ofDocument d).mediaTypes) :
    Names d u.entry.mediaType u.entry.pointer := by
  have entry := List.mem_map_of_mem (f := (·.entry)) used
  rw [Context.mediaTypes_entries] at entry
  obtain ⟨o,listed,entry⟩ := List.mem_flatMap.mp entry
  obtain ⟨r,declared,entry⟩ := List.mem_flatMap.mp entry
  exact ⟨o,listed,r,declared,entry⟩

/-- One place has one name, however many responses use it. -/
theorem Names.unique {d : Document} (distinct : d.root.Distinct) {p : Pointer} {name name' : String}
    (one : Names d name p) (two : Names d name' p) : name = name' := by
  unfold Names at one two
  cases dialect : d.dialect with
  | openApi3 =>
    rw [dialect,← declared_iff distinct] at one two
    obtain ⟨_,_,_,place,_⟩ := one
    obtain ⟨_,_,_,place',_⟩ := two
    have same := place.symm.trans place'
    simp only [Pointer.ofKeys,List.map_cons,List.map_nil,Pointer.mk.injEq,List.cons.injEq,
      Segment.key.injEq] at same
    exact same.2.2.2.2.2.2.1
  | swagger =>
    rw [dialect] at one two
    obtain ⟨o,listed,r,declared,member⟩ := one
    obtain ⟨o',listed',r',declared',member'⟩ := two
    have text := ((uses_iff distinct).mpr ⟨o,listed,rfl,r,declared,member⟩).text
    have text' := ((uses_iff distinct).mpr ⟨o',listed',rfl,r',declared',member'⟩).text
    exact Json.string.inj (Option.some.inj (text.symm.trans text'))

section
variable {r : Registry} (built : r.Built) {e : RegisteredRule} (found : r.get? "172" = some e)
  (same : e.rule = rule) (enabled : e.enabled = true)
include built found same enabled

/-- A report names the places of the offending media types. -/
theorem faulted_eq {d : Document} (distinct : d.root.Distinct) :
    faulted (.ofDocument d) (r.lint d) =
      (Context.ofDocument d).mediaTypes.filter (isOffending ·.entry.mediaType) := by
  refine List.filter_congr fun u used => ?_
  have names := names_of_use used
  rw [violationsOf_lint same built found enabled,Bool.eq_iff_iff,List.any_eq_true]
  constructor
  · rintro ⟨v,member,place⟩
    obtain ⟨p,listed,rfl⟩ := List.mem_map.mp member
    obtain ⟨o,inside,declared,response,name,offends,entry⟩ := mem_reported.mp listed
    have there : p = u.entry.pointer := of_decide_eq_true place
    rw [names.unique distinct ⟨o,inside,declared,response,there ▸ entry⟩]
    exact offends
  · intro offends
    obtain ⟨o,inside,declared,response,entry⟩ := names
    have listed := mem_reported.mpr ⟨o,inside,declared,response,u.entry.mediaType,offends,entry⟩
    exact ⟨_,List.mem_map_of_mem listed,by simp [Violation.of]⟩

end

/-- A description of the older dialect and its translation have the same paths, operations and
responses, at the same places, and the same media types in the same order; so the rule finds fault with
the same ones. -/
theorem translation_agrees {described : String → Json} (plain : ∀ t, (described t).Distinct)
    {d d' : Document} (distinct : d.root.Distinct) (fit : Translatable d.root)
    (translated : d'.root = translate described d.root) :
    let c := Context.ofDocument d
    let c' := Context.ofDocument d'
    c.dialect = .swagger ∧ c'.dialect = .openApi3 ∧ d'.root.Distinct ∧
    c'.api.hasPaths = c.api.hasPaths ∧
    c'.api.paths.map (·.unplaced) = c.api.paths.map (·.unplaced) ∧
    c'.mediaTypes.map (·.named) = c.mediaTypes.map (·.named) ∧
    ∀ r : Registry, r.Built → ∀ e, r.get? "172" = some e → e.rule = rule → e.enabled = true →
      (faulted c' (r.lint d')).map (·.named) = (faulted c (r.lint d)).map (·.named) := by
  intro c c'
  have older : c.dialect = .swagger := fit.older
  have newer : c'.dialect = .openApi3 := by
    have absent : d'.root.get? "swagger" = none := by rw [translated,get?_translate,if_pos rfl]
    show Dialect.detect d'.root = .openApi3
    simp [Dialect.detect,absent]
  have apart : d'.root.Distinct := translated ▸ translate_distinct distinct plain
  have paths : c'.api.paths.map (·.unplaced) = c.api.paths.map (·.unplaced) := by
    have same := pathItems_translate described
      fun path item name operation listed inside method => fit.movable distinct listed inside method
    have model : c.api = ofRoot .swagger d.root := congrArg (ofRoot · d.root) older
    have model' : c'.api = ofRoot .openApi3 d'.root := congrArg (ofRoot · d'.root) newer
    rw [model,model',translated]
    exact same
  have uses : c'.mediaTypes.map (·.named) = c.mediaTypes.map (·.named) := by
    rw [Context.mediaTypes_named,Context.mediaTypes_named,paths]
  refine ⟨older,newer,apart,?_,paths,uses,fun r built e found same enabled => ?_⟩
  · show (d'.root.get? "paths").isSome = (d.root.get? "paths").isSome
    rw [translated,get?_translate,if_neg (by decide),Option.isSome_map]
  · have offending (list : List MediaTypeUse) :
        (list.filter (isOffending ·.entry.mediaType)).map (·.named) =
          (list.map (·.named)).filter (isOffending ·.2.2.2) := by
      rw [List.filter_map,Function.comp_def]
      rfl
    rw [faulted_eq built found same enabled apart,faulted_eq built found same enabled distinct,
      offending,offending,uses]

/-- An operation with a list of its own. -/
def reading : List (String × Json) :=
  [("produces",.array [.string "text/plain",.string "application/json"]),
    ("responses",.object [("200",.object []),("404",.object [("content",.null)])])]

/-- An operation that shares the list of the root. -/
def writing : List (String × Json) := [("responses",.object [("201",.object [])])]

def shop : Document := ⟨"",.object [("swagger",.string "2.0"),
  ("produces",.array [.string "application/json"]),
  ("paths",.object [("/pets",.object [("get",.object reading),("post",.object writing)])])]⟩

theorem shop_operations {path method : String} {operation : List (String × Json)}
    (found : (Pointer.ofKeys ["paths",path,method]).resolve? shop.root = some (.object operation)) :
    operation = reading ∨ operation = writing := by
  obtain ⟨item,above,there⟩ := (Pointer.resolve?_key_iff (p := .ofKeys ["paths",path])).mp found
  obtain ⟨paths,root,item'⟩ := (Pointer.resolve?_key_iff (p := .ofKeys ["paths"])).mp above
  obtain rfl : [("/pets",Json.object [("get",.object reading),("post",.object writing)])] = paths :=
    Json.object.inj (Option.some.inj root)
  have only := Json.mem_of_lookup item'
  simp only [List.mem_singleton,Prod.mk.injEq,Json.object.injEq] at only
  obtain ⟨_,rfl⟩ := only
  have one := Json.mem_of_lookup there
  simp only [List.mem_cons,Prod.mk.injEq,Json.object.injEq,List.not_mem_nil,or_false] at one
  rcases one with ⟨_,same⟩ | ⟨_,same⟩
  · exact .inl same
  · exact .inr same

theorem shop_translatable : Translatable shop.root where
  older := rfl
  shared v found := ⟨["application/json"],by decide,(Option.some.inj found).symm⟩
  own path method v _ found := by
    obtain ⟨operation,above,there⟩ :=
      (Pointer.resolve?_key_iff (p := .ofKeys ["paths",path,method])).mp found
    rcases shop_operations above with rfl | rfl
    · exact ⟨["text/plain","application/json"],by decide,(Option.some.inj there).symm⟩
    · cases there
  responses path method status v _ found := by
    obtain ⟨statuses,above,there⟩ :=
      (Pointer.resolve?_key_iff (p := .ofKeys ["paths",path,method,"responses"])).mp found
    obtain ⟨operation,above,responses⟩ :=
      (Pointer.resolve?_key_iff (p := .ofKeys ["paths",path,method])).mp above
    have member := Json.mem_of_lookup there
    rcases shop_operations above with rfl | rfl
    · obtain rfl := Json.object.inj (Option.some.inj responses)
      simp only [List.mem_cons,Prod.mk.injEq,List.not_mem_nil,or_false] at member
      rcases member with ⟨_,rfl⟩ | ⟨_,rfl⟩ <;> rfl
    · obtain rfl := Json.object.inj (Option.some.inj responses)
      simp only [List.mem_singleton,Prod.mk.injEq] at member
      exact member.2 ▸ rfl

theorem translation_agrees_shop :
    let newer : Document := ⟨"",translate (fun _ => .object []) shop.root⟩
    let r := Registry.plainBuiltins (fun _ => .unreachable) {} .empty
    Translatable shop.root ∧ shop.root.Distinct ∧
    newer.root = .object [("produces",.array [.string "application/json"]),
      ("paths",.object [("/pets",.object [
        ("get",.object [("produces",.array [.string "text/plain",.string "application/json"]),
          ("responses",.object [
            ("200",.object [("content",.object [("text/plain",.object []),
              ("application/json",.object [])])]),
            ("404",.object [("content",.object [("text/plain",.object []),
              ("application/json",.object [])])])])]),
        ("post",.object [("responses",.object [
          ("201",.object [("content",.object [("application/json",.object [])])])])])])])] ∧
    (Context.ofDocument newer).mediaTypes.map (·.named) =
      (Context.ofDocument shop).mediaTypes.map (·.named) ∧
    (faulted (.ofDocument newer) (r.lint newer)).map (·.named) =
      (faulted (.ofDocument shop) (r.lint shop)).map (·.named) := by
  intro newer r
  have distinct : shop.root.Distinct := by
    simp [shop,reading,writing,Json.Distinct,Json.DistinctMembers,Json.DistinctItems]
  have plain (t : String) : ((fun _ => Json.object []) t).Distinct := by
    simp [Json.Distinct,Json.DistinctMembers]
  obtain ⟨_,_,_,_,_,uses,faults⟩ :=
    translation_agrees plain distinct shop_translatable (show newer.root = translate _ _ from rfl)
  exact ⟨shop_translatable,distinct,by decide +kernel,uses,
    faults r ((Registry.Built.empty.register _).register _) ⟨rule,true,none⟩ rfl rfl rfl⟩

end MediaTypes
end ApiReview
