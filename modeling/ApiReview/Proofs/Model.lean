import ApiReview.Document.Context
import ApiReview.Proofs.Order

/-! What normalization finds. A node of a model is listed exactly when the pointer it carries leads
to a node of the right shape, and nodes are listed in document order. -/
namespace ApiReview

theorem Pointer.resolve?_key_iff {p : Pointer} {root v : Json} {name : String} :
    (p.key name).resolve? root = some v ↔
      ∃ ms, p.resolve? root = some (.object ms) ∧ Json.lookup name ms = some v := by
  constructor
  · intro found
    rw [key,resolve?_join,Option.bind_eq_some_iff] at found
    obtain ⟨node,above,below⟩ := found
    obtain ⟨ms,rfl,member⟩ := Segment.step?_eq_some_iff.mp below
    exact ⟨ms,above,member⟩
  · rintro ⟨ms,above,member⟩
    exact resolve?_key above member

theorem Pointer.resolve?_index_iff {p : Pointer} {root v : Json} {i : Nat} :
    (p.index i).resolve? root = some v ↔
      ∃ items, p.resolve? root = some (.array items) ∧ items[i]? = some v := by
  constructor
  · intro found
    rw [index,resolve?_join,Option.bind_eq_some_iff] at found
    obtain ⟨node,above,below⟩ := found
    obtain ⟨items,rfl,item⟩ := Segment.step?_eq_some_iff.mp below
    exact ⟨items,above,item⟩
  · rintro ⟨items,above,item⟩
    exact resolve?_index above item

namespace ApiModel

section
variable {root : Json} {base : Pointer} {node : Json}

theorem get?_found (found : base.resolve? root = some node) {name : String} {v : Json} :
    node.get? name = some v ↔ (base.key name).resolve? root = some v := by
  rw [Pointer.resolve?_key_iff,found,Json.get?_eq_some_iff]
  simp

/-- The members of an object below a node are what the names lead to. -/
theorem mem_below (distinct : root.Distinct) (found : base.resolve? root = some node)
    (name : String) {m : String × Json} :
    m ∈ ((node.get? name).bind Json.members?).getD [] ↔
      ((base.key name).key m.1).resolve? root = some m.2 := by
  rw [Pointer.resolve?_key_iff]
  cases below : (node.get? name).bind Json.members? with
  | none =>
    constructor
    · simp
    · rintro ⟨ms,object,_⟩
      rw [← get?_found found] at object
      simp [object,Json.members?] at below
  | some ms =>
    obtain ⟨v,member,object⟩ := Option.bind_eq_some_iff.mp below
    rw [Json.members?_eq_some_iff] at object
    rw [get?_found found,object] at member
    have apart := distinct.walk (Pointer.walk_iff.mp member)
    simp [member,Json.lookup_eq_some_iff apart.1]

theorem below_ordered (found : base.resolve? root = some node) (name : String) :
    (((node.get? name).bind Json.members?).getD []).Pairwise fun m n =>
      Pointer.Precedes root ((base.key name).key m.1) ((base.key name).key n.1) := by
  cases below : (node.get? name).bind Json.members? with
  | none => exact .nil
  | some ms =>
    obtain ⟨v,member,object⟩ := Option.bind_eq_some_iff.mp below
    rw [Json.members?_eq_some_iff] at object
    rw [get?_found found,object] at member
    exact Pointer.members_ordered member

end

section
variable {content : Pointer → List (String × Json) → Pointer → Json → List MediaTypeEntry}
  {root : Json}

theorem mem_pathItems (distinct : root.Distinct) {item : PathItem} :
    item ∈ pathItems content root ↔ ∃ path ms,
      (Pointer.ofKeys ["paths",path]).resolve? root = some (.object ms) ∧
      item = ⟨path,.ofKeys ["paths",path],operations content (.ofKeys ["paths",path]) ms⟩ := by
  simp only [pathItems,List.mem_filterMap,mem_below distinct (Pointer.resolve?_root root) "paths",
    Option.map_eq_some_iff,Json.members?_eq_some_iff]
  constructor
  · rintro ⟨⟨path,value⟩,found,ms,rfl,rfl⟩
    exact ⟨path,ms,found,rfl⟩
  · rintro ⟨path,ms,found,rfl⟩
    exact ⟨(path,.object ms),found,ms,rfl,rfl⟩

theorem pathItems_ordered (root : Json) :
    (pathItems content root).Pairwise fun a b => Pointer.Precedes root a.pointer b.pointer := by
  refine List.pairwise_filterMap.mpr ?_
  refine (below_ordered (Pointer.resolve?_root root) "paths").imp ?_
  intro m n first a left b right
  obtain ⟨_,_,rfl⟩ := Option.map_eq_some_iff.mp left
  obtain ⟨_,_,rfl⟩ := Option.map_eq_some_iff.mp right
  exact first

variable {base : Pointer} {ms : List (String × Json)}

theorem mem_operations (distinct : root.Distinct) (found : base.resolve? root = some (.object ms))
    {o : Operation} : o ∈ operations content base ms ↔ ∃ name operation,
      isMethod name = true ∧ (base.key name).resolve? root = some (.object operation) ∧
      o = ⟨lowerCase name,base.key name,
        responses (content (base.key name) operation) (base.key name) operation⟩ := by
  have apart := distinct.walk (Pointer.walk_iff.mp found)
  simp only [operations,List.mem_filterMap,Pointer.resolve?_key_iff,found]
  constructor
  · rintro ⟨⟨name,value⟩,member,made⟩
    split at made
    · next method =>
      obtain ⟨operation,object,rfl⟩ := Option.map_eq_some_iff.mp made
      rw [Json.members?_eq_some_iff] at object
      subst object
      exact ⟨name,operation,method,⟨ms,rfl,Json.lookup_of_mem apart.1 member⟩,rfl⟩
    · cases made
  · rintro ⟨name,operation,method,⟨_,⟨⟩,member⟩,rfl⟩
    exact ⟨(name,.object operation),Json.mem_of_lookup member,by simp [method,Json.members?]⟩

theorem operations_ordered (found : base.resolve? root = some (.object ms)) :
    (operations content base ms).Pairwise fun a b =>
      Pointer.Precedes root a.pointer b.pointer := by
  refine List.pairwise_filterMap.mpr ((Pointer.members_ordered found).imp ?_)
  intro m n first a left b right
  dsimp only at left right
  split at left
  · split at right
    · obtain ⟨_,_,rfl⟩ := Option.map_eq_some_iff.mp left
      obtain ⟨_,_,rfl⟩ := Option.map_eq_some_iff.mp right
      exact first
    · cases right
  · cases left

theorem mem_responses (distinct : root.Distinct) (found : base.resolve? root = some (.object ms))
    {entries : Pointer → Json → List MediaTypeEntry} {r : Response} :
    r ∈ responses entries base ms ↔ ∃ status value,
      ((base.key "responses").key status).resolve? root = some value ∧
      r = ⟨status,(base.key "responses").key status,
        entries ((base.key "responses").key status) value⟩ := by
  have below (m : String × Json) := mem_below distinct found "responses" (m := m)
  simp only [responses,membersAt,List.mem_map]
  constructor
  · rintro ⟨⟨status,value⟩,member,rfl⟩
    exact ⟨status,value,(below _).mp member,rfl⟩
  · rintro ⟨status,value,member,rfl⟩
    exact ⟨(status,value),(below (status,value)).mpr member,rfl⟩

theorem responses_ordered (found : base.resolve? root = some (.object ms))
    (entries : Pointer → Json → List MediaTypeEntry) :
    (responses entries base ms).Pairwise fun a b =>
      Pointer.Precedes root a.pointer b.pointer :=
  List.pairwise_map.mpr (below_ordered found "responses")

theorem mem_contentEntries (distinct : root.Distinct) {node : Json}
    (found : base.resolve? root = some node) {e : MediaTypeEntry} :
    e ∈ contentEntries base node ↔ ∃ v,
      ((base.key "content").key e.mediaType).resolve? root = some v ∧
      e.pointer = (base.key "content").key e.mediaType := by
  simp only [contentEntries,List.mem_map]
  constructor
  · rintro ⟨⟨name,v⟩,member,rfl⟩
    exact ⟨v,(mem_below distinct found "content").mp member,rfl⟩
  · rintro ⟨v,member,place⟩
    obtain ⟨name,pointer⟩ := e
    exact ⟨(name,v),(mem_below distinct found "content" (m := (name,v))).mpr member,by rw [← place]⟩

theorem contentEntries_ordered {node : Json} (found : base.resolve? root = some node) :
    (contentEntries base node).Pairwise fun a b => Pointer.Precedes root a.pointer b.pointer :=
  List.pairwise_map.mpr (below_ordered found "content")

end

theorem mem_stringEntries {base : Pointer} {e : MediaTypeEntry} {position : Nat}
    {items : List Json} : e ∈ stringEntries base position items ↔
      ∃ i, items[i]? = some (.string e.mediaType) ∧ e.pointer = base.index (position + i) := by
  induction items generalizing position with
  | nil => simp [stringEntries]
  | cons v rest ih =>
    have split (P : Nat → Prop) : (∃ i, P i) ↔ P 0 ∨ ∃ i, P (i + 1) := by
      constructor
      · rintro ⟨_ | i,holds⟩
        · exact .inl holds
        · exact .inr ⟨i,holds⟩
      · rintro (holds | ⟨i,holds⟩)
        · exact ⟨0,holds⟩
        · exact ⟨i + 1,holds⟩
    have later : (∃ i, rest[i]? = some (.string e.mediaType) ∧
        e.pointer = base.index (position + 1 + i)) ↔
        ∃ i, (v :: rest)[i + 1]? = some (.string e.mediaType) ∧
          e.pointer = base.index (position + (i + 1)) := by
      simp only [List.getElem?_cons_succ,Nat.add_comm,Nat.add_left_comm]
    rw [split,← later,← ih]
    obtain ⟨name,pointer⟩ := e
    cases v <;> simp [stringEntries,eq_comm]

theorem stringEntries_ordered {root node : Json} {base : Pointer}
    (found : base.resolve? root = some node) (position : Nat) (items : List Json) :
    (stringEntries base position items).Pairwise fun a b =>
      Pointer.Precedes root a.pointer b.pointer := by
  induction items generalizing position with
  | nil => exact .nil
  | cons v rest ih =>
    cases v with
    | string s =>
      refine List.pairwise_cons.mpr ⟨fun b later => ?_,ih _⟩
      obtain ⟨i,_,place⟩ := mem_stringEntries.mp later
      rw [place]
      exact Pointer.precedes_index found (by omega)
    | _ => exact ih _

section
variable {root : Json} {base : Pointer} {ms : List (String × Json)}

theorem produces?_eq_some_iff (found : base.resolve? root = some (.object ms))
    {entries : List MediaTypeEntry} : produces? base ms = some entries ↔
      ∃ items, (base.key "produces").resolve? root = some (.array items) ∧
        entries = stringEntries (base.key "produces") 0 items := by
  simp only [produces?,Option.map_eq_some_iff,Option.bind_eq_some_iff,
    Json.items?_eq_some_iff,Pointer.resolve?_key_iff,found]
  constructor
  · rintro ⟨items,⟨_,member,rfl⟩,rfl⟩
    exact ⟨items,⟨ms,rfl,member⟩,rfl⟩
  · rintro ⟨items,⟨_,⟨⟩,member⟩,rfl⟩
    exact ⟨items,⟨_,member,rfl⟩,rfl⟩

/-- The list of the root, which stands in for those of the operations. -/
theorem produces?_root {entries : List MediaTypeEntry} :
    produces? .root (root.members?.getD []) = some entries ↔
      ∃ items, (Pointer.ofKeys ["produces"]).resolve? root = some (.array items) ∧
        entries = stringEntries (.ofKeys ["produces"]) 0 items := by
  cases root with
  | object ms => exact produces?_eq_some_iff (Pointer.resolve?_root _)
  | _ =>
    constructor
    · intro found
      simp [produces?,Json.members?,Json.lookup] at found
    · rintro ⟨items,found,_⟩
      simp [Pointer.ofKeys,Pointer.resolve?,Segment.step?] at found

end

/-- All operations of a model. -/
def allOperations (api : ApiModel) : List Operation := api.paths.flatMap (·.operations)

theorem mem_allOperations {root : Json} (distinct : root.Distinct) (dialect : Dialect)
    {o : Operation} : o ∈ (ofRoot dialect root).allOperations ↔
      ∃ path method operation, isMethod method = true ∧
        (Pointer.ofKeys ["paths",path,method]).resolve? root = some (.object operation) ∧
        o = ⟨lowerCase method,.ofKeys ["paths",path,method],
          responses (content dialect root (.ofKeys ["paths",path,method]) operation)
            (.ofKeys ["paths",path,method]) operation⟩ := by
  simp only [allOperations,ofRoot,List.mem_flatMap]
  constructor
  · rintro ⟨item,listed,member⟩
    obtain ⟨path,ms,found,rfl⟩ := (mem_pathItems distinct).mp listed
    obtain ⟨method,operation,known,below,rfl⟩ := (mem_operations distinct found).mp member
    exact ⟨path,method,operation,known,below,rfl⟩
  · rintro ⟨path,method,operation,known,below,rfl⟩
    obtain ⟨ms,found,_⟩ := (Pointer.resolve?_key_iff (p := .ofKeys ["paths",path])).mp below
    exact ⟨_,(mem_pathItems distinct).mpr ⟨path,ms,found,rfl⟩,
      (mem_operations distinct found).mpr ⟨method,operation,known,below,rfl⟩⟩

theorem allOperations_ordered {root : Json} (distinct : root.Distinct) (dialect : Dialect) :
    (ofRoot dialect root).allOperations.Pairwise fun a b =>
      Pointer.Precedes root a.pointer b.pointer := by
  have inside {item : PathItem} (listed : item ∈ (ofRoot dialect root).paths) :
      ∃ ms, item.pointer.resolve? root = some (.object ms) ∧
        item.operations = operations (content dialect root) item.pointer ms := by
    obtain ⟨path,ms,found,rfl⟩ := (mem_pathItems distinct).mp listed
    exact ⟨ms,found,rfl⟩
  have within {item : PathItem} (listed : item ∈ (ofRoot dialect root).paths) {o : Operation}
      (member : o ∈ item.operations) : o.pointer.Within item.pointer := by
    obtain ⟨ms,found,same⟩ := inside listed
    obtain ⟨method,_,_,_,rfl⟩ := (mem_operations distinct found).mp (same ▸ member)
    exact (Pointer.Within.refl _).key method
  apply Pointer.ordered_flatMap (pathItems_ordered root)
  · intro item listed
    obtain ⟨ms,found,same⟩ := inside listed
    rw [same]
    exact operations_ordered found
  · intro item listed o member
    exact within listed member

end ApiModel

namespace Context

/-- Media types are those of the responses, operation by operation. -/
theorem mediaTypes_entries (c : Context) :
    c.mediaTypes.map (·.entry) =
      c.api.allOperations.flatMap fun o => o.responses.flatMap (·.content) := by
  simp [mediaTypes,ApiModel.allOperations,List.map_flatMap,List.flatMap_assoc,Function.comp_def]

end Context
end ApiReview
