import ApiReview.Proofs.MediaTypes

/-! What a model has of a document. Level by level its nodes and the nodes of the tree that count
correspond one to one and in order, and no other model of the document does that. -/
namespace ApiReview

namespace Pointer

/-- A member, at `p`, of the object at `base`; its name and its value count. -/
def Member (root : Json) (base : Pointer) (counts : String → Json → Prop) (p : Pointer)
    (v : Json) : Prop :=
  ∃ ms name, base.resolve? root = some (.object ms) ∧ (name,v) ∈ ms ∧ counts name v ∧
    p = base.key name

/-- A string, at `p`, of the array at `base`. -/
def Text (root : Json) (base p : Pointer) (v : Json) : Prop :=
  ∃ items i name, base.resolve? root = some (.array items) ∧ items[i]? = some v ∧
    v = .string name ∧ p = base.index i

theorem member_iff {root : Json} (distinct : root.Distinct) {base p : Pointer} {v : Json}
    {counts : String → Json → Prop} : Member root base counts p v ↔
      ∃ name, p = base.key name ∧ p.resolve? root = some v ∧ counts name v := by
  constructor
  · rintro ⟨ms,name,object,member,counted,rfl⟩
    have apart := distinct.walk (walk_iff.mp object)
    exact ⟨name,rfl,resolve?_key object (Json.lookup_of_mem apart.1 member),counted⟩
  · rintro ⟨name,rfl,found,counted⟩
    obtain ⟨ms,object,member⟩ := resolve?_key_iff.mp found
    exact ⟨ms,name,object,Json.mem_of_lookup member,counted,rfl⟩

theorem text_iff {root : Json} {base p : Pointer} {v : Json} : Text root base p v ↔
    ∃ i name, p = base.index i ∧ p.resolve? root = some v ∧ v = .string name := by
  constructor
  · rintro ⟨items,i,name,array,item,text,rfl⟩
    exact ⟨i,name,rfl,resolve?_index array item,text⟩
  · rintro ⟨i,name,rfl,found,text⟩
    obtain ⟨items,array,item⟩ := resolve?_index_iff.mp found
    exact ⟨items,i,name,array,item,text,rfl⟩

/-- A list has a node for every source, once and in document order, and the place of a node leads
to its source. -/
structure Lists {α : Type} (root : Json) (place : α → Pointer) (list : List α)
    (source : Pointer → Json → Prop) : Prop where
  sound : ∀ a ∈ list, ∃ v, source (place a) v ∧ (place a).resolve? root = some v
  complete : ∀ p v, source p v → ∃ a ∈ list, place a = p
  ordered : list.Pairwise fun a b => Precedes root (place a) (place b)
  once : (list.map place).Nodup

section
variable {α : Type} {root : Json} {place : α → Pointer} {list : List α}

/-- Sources that their places lead to are listed once when they are listed in order. -/
theorem Lists.of_mem (distinct : root.Distinct) {source : Pointer → Json → Prop}
    (leads : ∀ p v, source p v → p.resolve? root = some v)
    (listed : ∀ p, (∃ a ∈ list, place a = p) ↔ ∃ v, source p v)
    (ordered : list.Pairwise fun a b => Precedes root (place a) (place b)) :
    Lists root place list source where
  sound a member := by
    obtain ⟨v,counted⟩ := (listed _).mp ⟨a,member,rfl⟩
    exact ⟨v,counted,leads _ v counted⟩
  complete p v counted := (listed p).mpr ⟨v,counted⟩
  ordered := ordered
  once := nodup_of_ordered distinct (List.pairwise_map.mpr ordered)

theorem Lists.members (distinct : root.Distinct) {base : Pointer} {counts : String → Json → Prop}
    (listed : ∀ p, (∃ a ∈ list, place a = p) ↔
      ∃ v name, p = base.key name ∧ p.resolve? root = some v ∧ counts name v)
    (ordered : list.Pairwise fun a b => Precedes root (place a) (place b)) :
    Lists root place list (Member root base counts) := by
  apply Lists.of_mem distinct _ _ ordered
  · intro p v counted
    obtain ⟨_,_,found,_⟩ := (member_iff distinct).mp counted
    exact found
  · intro p
    rw [listed]
    simp only [member_iff distinct]

/-- Two lists for the same sources are one when their nodes are determined by the places. -/
theorem Lists.unique (distinct : root.Distinct) {source : Pointer → Json → Prop} {other : List α}
    (left : Lists root place list source) (right : Lists root place other source)
    (same : ∀ a ∈ list, ∀ b ∈ other, place a = place b → a = b) : list = other := by
  have nodup {l : List α} (lists : Lists root place l source) : l.Nodup :=
    List.Pairwise.of_map place (fun _ _ apart same => apart (congrArg place same)) lists.once
  apply List.Perm.eq_of_pairwise _ left.ordered right.ordered
  · apply (List.perm_ext_iff_of_nodup (nodup left) (nodup right)).mpr
    intro a
    constructor
    · intro member
      obtain ⟨v,counted,_⟩ := left.sound a member
      obtain ⟨b,there,place⟩ := right.complete _ v counted
      rw [same a member b there place.symm]
      exact there
    · intro member
      obtain ⟨v,counted,_⟩ := right.sound a member
      obtain ⟨b,there,place⟩ := left.complete _ v counted
      rw [← same b there a member place]
      exact there
  · intro a b _ _ first second
    exact absurd second (first.asymm distinct)

end
end Pointer

open ApiModel Pointer

/-- The media types of a response: the names under its `content` in the newer dialect, the texts of
the list of its operation in the older one. -/
structure Response.Mirrors (dialect : Dialect) (root : Json) (op : Pointer) (r : Response) :
    Prop where
  place : r.pointer = (op.key "responses").key r.status
  names : dialect = .openApi3 → Lists root (·.pointer) r.content
    (Member root (r.pointer.key "content") fun _ _ => True)
  named : dialect = .openApi3 → ∀ e ∈ r.content,
    e.pointer = (r.pointer.key "content").key e.mediaType
  texts : dialect = .swagger → Lists root (·.pointer) r.content
    (Text root (MediaTypes.listOf root op))
  read : dialect = .swagger → ∀ e ∈ r.content, e.pointer.resolve? root = some (.string e.mediaType)

/-- The pointer of an operation keeps the name of its method as it is written. -/
structure Operation.Mirrors (dialect : Dialect) (root : Json) (item : Pointer) (o : Operation) :
    Prop where
  written : ∃ name, o.pointer = item.key name ∧ o.method = lowerCase name
  listed : Lists root (·.pointer) o.responses
    (Member root (o.pointer.key "responses") fun _ _ => True)
  responses : ∀ r ∈ o.responses, r.Mirrors dialect root o.pointer

structure PathItem.Mirrors (dialect : Dialect) (root : Json) (item : PathItem) : Prop where
  place : item.pointer = .ofKeys ["paths",item.path]
  listed : Lists root (·.pointer) item.operations (Member root item.pointer fun name v =>
    lowerCase name ∈ httpMethods ∧ ∃ ms, v = .object ms)
  operations : ∀ o ∈ item.operations, o.Mirrors dialect root item.pointer

/-- A model has what counts of a document in a dialect, and nothing else. -/
structure ApiModel.Mirrors (dialect : Dialect) (root : Json) (api : ApiModel) : Prop where
  hasPaths : api.hasPaths = true ↔ ∃ v, (Pointer.ofKeys ["paths"]).resolve? root = some v
  listed : Lists root (·.pointer) api.paths
    (Member root (.ofKeys ["paths"]) fun _ v => ∃ ms, v = .object ms)
  paths : ∀ item ∈ api.paths, item.Mirrors dialect root

section
variable {dialect : Dialect} {root : Json}

/-! What normalization lists. -/

theorem ApiModel.contentEntries_lists (distinct : root.Distinct) {base : Pointer} {node : Json}
    (found : base.resolve? root = some node) :
    Lists root (·.pointer) (contentEntries base node)
      (Member root (base.key "content") fun _ _ => True) := by
  apply Lists.members distinct _ (contentEntries_ordered found)
  intro p
  constructor
  · rintro ⟨e,member,rfl⟩
    obtain ⟨v,leads,place⟩ := (mem_contentEntries distinct found).mp member
    exact ⟨v,e.mediaType,place,place ▸ leads,trivial⟩
  · rintro ⟨v,name,rfl,leads,_⟩
    exact ⟨⟨name,_⟩,(mem_contentEntries distinct found).mpr ⟨v,leads,rfl⟩,rfl⟩

theorem ApiModel.content_lists (distinct : root.Distinct) {op : Pointer} {ms : List (String × Json)}
    (found : op.resolve? root = some (.object ms)) (response : Pointer) (v : Json) :
    Lists root (·.pointer) (content .swagger root op ms response v)
      (Text root (MediaTypes.listOf root op)) := by
  apply Lists.of_mem distinct _ _ (MediaTypes.content_ordered found response v)
  · intro p v counted
    obtain ⟨_,_,_,leads,_⟩ := text_iff.mp counted
    exact leads
  · intro p
    simp only [text_iff]
    constructor
    · rintro ⟨e,member,rfl⟩
      obtain ⟨⟨i,place⟩,leads⟩ := (MediaTypes.mem_content_iff found response v).mp member
      exact ⟨_,i,e.mediaType,place,leads,rfl⟩
    · rintro ⟨_,i,name,place,leads,rfl⟩
      exact ⟨⟨name,p⟩,(MediaTypes.mem_content_iff found response v).mpr ⟨⟨i,place⟩,leads⟩,rfl⟩

theorem ApiModel.responses_lists (distinct : root.Distinct) {base : Pointer}
    {ms : List (String × Json)} (found : base.resolve? root = some (.object ms))
    (entries : Pointer → Json → List MediaTypeEntry) :
    Lists root (·.pointer) (responses entries base ms)
      (Member root (base.key "responses") fun _ _ => True) := by
  apply Lists.members distinct _ (responses_ordered found entries)
  intro p
  constructor
  · rintro ⟨r,member,rfl⟩
    obtain ⟨status,v,leads,rfl⟩ := (mem_responses distinct found).mp member
    exact ⟨v,status,rfl,leads,trivial⟩
  · rintro ⟨v,status,rfl,leads,_⟩
    exact ⟨_,(mem_responses distinct found).mpr ⟨status,v,leads,rfl⟩,rfl⟩

variable {entries : Pointer → List (String × Json) → Pointer → Json → List MediaTypeEntry}

theorem ApiModel.operations_lists (distinct : root.Distinct) {base : Pointer}
    {ms : List (String × Json)} (found : base.resolve? root = some (.object ms)) :
    Lists root (·.pointer) (operations entries base ms) (Member root base fun name v =>
      lowerCase name ∈ httpMethods ∧ ∃ ms, v = .object ms) := by
  apply Lists.members distinct _ (operations_ordered found)
  intro p
  constructor
  · rintro ⟨o,member,rfl⟩
    obtain ⟨name,operation,method,leads,rfl⟩ := (mem_operations distinct found).mp member
    exact ⟨_,name,rfl,leads,by simpa [isMethod] using method,operation,rfl⟩
  · rintro ⟨_,name,rfl,leads,method,operation,rfl⟩
    exact ⟨_,(mem_operations distinct found).mpr
      ⟨name,operation,by simpa [isMethod] using method,leads,rfl⟩,rfl⟩

theorem ApiModel.pathItems_lists (distinct : root.Distinct) :
    Lists root (·.pointer) (pathItems entries root)
      (Member root (.ofKeys ["paths"]) fun _ v => ∃ ms, v = .object ms) := by
  apply Lists.members distinct _ (pathItems_ordered root)
  intro p
  constructor
  · rintro ⟨item,member,rfl⟩
    obtain ⟨path,ms,leads,rfl⟩ := (mem_pathItems distinct).mp member
    exact ⟨_,path,rfl,leads,ms,rfl⟩
  · rintro ⟨_,path,rfl,leads,ms,rfl⟩
    exact ⟨_,(mem_pathItems distinct).mpr ⟨path,ms,leads,rfl⟩,rfl⟩

theorem ApiModel.responses_mirror (distinct : root.Distinct) {op : Pointer}
    {ms : List (String × Json)} (found : op.resolve? root = some (.object ms)) {r : Response}
    (member : r ∈ responses (content dialect root op ms) op ms) : r.Mirrors dialect root op := by
  obtain ⟨status,v,leads,rfl⟩ := (mem_responses distinct found).mp member
  refine ⟨rfl,?_,?_,?_,?_⟩
  · rintro rfl
    exact contentEntries_lists distinct leads
  · rintro rfl e listed
    obtain ⟨_,_,place⟩ := (mem_contentEntries distinct leads).mp listed
    exact place
  · rintro rfl
    exact content_lists distinct found ((op.key "responses").key status) v
  · rintro rfl e listed
    exact ((MediaTypes.mem_content_iff found ((op.key "responses").key status) v).mp listed).2

theorem ApiModel.operations_mirror (distinct : root.Distinct) {base : Pointer}
    {ms : List (String × Json)} (found : base.resolve? root = some (.object ms)) {o : Operation}
    (member : o ∈ operations (content dialect root) base ms) : o.Mirrors dialect root base := by
  obtain ⟨name,operation,_,leads,rfl⟩ := (mem_operations distinct found).mp member
  refine ⟨⟨name,rfl,rfl⟩,responses_lists distinct leads _,?_⟩
  intro r declared
  exact responses_mirror distinct leads declared

theorem ApiModel.Mirrors.ofRoot (distinct : root.Distinct) :
    (ApiModel.ofRoot dialect root).Mirrors dialect root := by
  refine ⟨?_,pathItems_lists distinct,?_⟩
  · simp only [ApiModel.ofRoot,Option.isSome_iff_exists]
    apply exists_congr
    intro v
    exact get?_found (resolve?_root root)
  · intro item member
    obtain ⟨path,ms,leads,rfl⟩ := (mem_pathItems distinct).mp member
    refine ⟨rfl,operations_lists distinct leads,?_⟩
    intro o listed
    exact operations_mirror distinct leads listed

/-! A model that has what counts is the one that normalization makes. -/

theorem Response.Mirrors.unique (distinct : root.Distinct) {op : Pointer} {r r' : Response}
    (left : r.Mirrors dialect root op) (right : r'.Mirrors dialect root op)
    (same : r.pointer = r'.pointer) : r = r' := by
  have status : r.status = r'.status := by
    rw [left.place,right.place] at same
    exact key_injective same
  have contents : r.content = r'.content := by
    cases dialect with
    | openApi3 =>
      apply (left.names rfl).unique distinct (same ▸ right.names rfl)
      intro e first e' second there
      have name : e.mediaType = e'.mediaType := by
        have place := left.named rfl e first
        rw [there,right.named rfl e' second,same] at place
        exact (key_injective place).symm
      cases e
      cases e'
      simp_all
    | swagger =>
      apply (left.texts rfl).unique distinct (right.texts rfl)
      intro e first e' second there
      have text := left.read rfl e first
      rw [there,right.read rfl e' second] at text
      cases e
      cases e'
      simp_all
  cases r
  cases r'
  simp_all

theorem Operation.Mirrors.unique (distinct : root.Distinct) {item : Pointer} {o o' : Operation}
    (left : o.Mirrors dialect root item) (right : o'.Mirrors dialect root item)
    (same : o.pointer = o'.pointer) : o = o' := by
  have method : o.method = o'.method := by
    obtain ⟨name,place,shown⟩ := left.written
    obtain ⟨name',place',shown'⟩ := right.written
    rw [place,place'] at same
    rw [shown,shown',key_injective same]
  have responses : o.responses = o'.responses := by
    apply left.listed.unique distinct (same ▸ right.listed)
    intro r first r' second
    exact (left.responses r first).unique distinct (same ▸ right.responses r' second)
  cases o
  cases o'
  simp_all

theorem PathItem.Mirrors.unique (distinct : root.Distinct) {item item' : PathItem}
    (left : item.Mirrors dialect root) (right : item'.Mirrors dialect root)
    (same : item.pointer = item'.pointer) : item = item' := by
  have path : item.path = item'.path := by
    rw [left.place,right.place] at same
    have names : (Pointer.ofKeys ["paths"]).key item.path = (Pointer.ofKeys ["paths"]).key item'.path :=
      same
    exact key_injective names
  have operations : item.operations = item'.operations := by
    apply left.listed.unique distinct (same ▸ right.listed)
    intro o first o' second
    exact (left.operations o first).unique distinct (same ▸ right.operations o' second)
  cases item
  cases item'
  simp_all

theorem ApiModel.Mirrors.unique (distinct : root.Distinct) {api api' : ApiModel}
    (left : api.Mirrors dialect root) (right : api'.Mirrors dialect root) : api = api' := by
  have hasPaths : api.hasPaths = api'.hasPaths := by
    rw [Bool.eq_iff_iff,left.hasPaths,right.hasPaths]
  have paths : api.paths = api'.paths := by
    apply left.listed.unique distinct right.listed
    intro item first item' second
    exact (left.paths item first).unique distinct (right.paths item' second)
  cases api
  cases api'
  simp_all

/-! In the newer dialect the entries of a model stand one by one in the document. -/

theorem Operation.Mirrors.entries_ordered {item : Pointer} {o : Operation}
    (mirrors : o.Mirrors .openApi3 root item) : (o.responses.flatMap (·.content)).Pairwise fun e f =>
      Precedes root e.pointer f.pointer := by
  apply ordered_flatMap mirrors.listed.ordered
  · intro r declared
    exact ((mirrors.responses r declared).names rfl).ordered
  · intro r declared e member
    rw [(mirrors.responses r declared).named rfl e member]
    exact ((Within.refl _).key _).key _

theorem Operation.Mirrors.within {item : Pointer} {o : Operation}
    (mirrors : o.Mirrors .openApi3 root item) {e : MediaTypeEntry}
    (member : e ∈ o.responses.flatMap (·.content)) : e.pointer.Within o.pointer := by
  obtain ⟨r,declared,member⟩ := List.mem_flatMap.mp member
  have response := mirrors.responses r declared
  rw [response.named rfl e member,response.place]
  exact ((((Within.refl _).key _).key _).key _).key _

theorem ApiModel.Mirrors.entries_ordered {api : ApiModel} (mirrors : api.Mirrors .openApi3 root) :
    (api.allOperations.flatMap fun o => o.responses.flatMap (·.content)).Pairwise fun e f =>
      Precedes root e.pointer f.pointer := by
  have operation {item : PathItem} (listed : item ∈ api.paths) {o : Operation}
      (member : o ∈ item.operations) := (mirrors.paths item listed).operations o member
  rw [allOperations,List.flatMap_assoc]
  apply ordered_flatMap mirrors.listed.ordered
  · intro item listed
    apply ordered_flatMap (mirrors.paths item listed).listed.ordered
    · intro o member
      exact (operation listed member).entries_ordered
    · intro o member e there
      exact (operation listed member).within there
  · intro item listed e there
    obtain ⟨o,member,there⟩ := List.mem_flatMap.mp there
    obtain ⟨name,place,_⟩ := (operation listed member).written
    have inside := (operation listed member).within there
    rw [place] at inside
    exact inside.above

end

/-- A model mirrors its document, and is the only one that does. In the newer dialect no two of its
media types stand at one place. -/
theorem ApiModel.ofRoot_mirrors {root : Json} (distinct : root.Distinct) (dialect : Dialect) :
    (ofRoot dialect root).Mirrors dialect root ∧
    (∀ api : ApiModel, api.Mirrors dialect root → api = ofRoot dialect root) ∧
    (dialect = .openApi3 → (((ofRoot dialect root).allOperations.flatMap fun o =>
      o.responses.flatMap (·.content)).map (·.pointer)).Nodup) := by
  have mirrors : (ofRoot dialect root).Mirrors dialect root := .ofRoot distinct
  refine ⟨mirrors,fun api other => other.unique distinct mirrors,?_⟩
  rintro rfl
  exact nodup_of_ordered distinct (List.pairwise_map.mpr mirrors.entries_ordered)

/-- Two spellings of a method, a response that is no object, and a list whose first item is no
text. -/
def ApiModel.uneven : Json := .object [("produces",.array [.null,.string "text/plain"]),
  ("paths",.object [("/a",.object [("GET",.object [("responses",.object [("200",.null)])]),
    ("parameters",.array []),("get",.object [("responses",.array [])])]),("/b",.null)])]

def ApiModel.unevenModel : ApiModel where
  hasPaths := true
  paths := [⟨"/a",.ofKeys ["paths","/a"],[
    ⟨"get",.ofKeys ["paths","/a","GET"],[⟨"200",.ofKeys ["paths","/a","GET","responses","200"],
      [⟨"text/plain",(Pointer.ofKeys ["produces"]).index 1⟩]⟩]⟩,
    ⟨"get",.ofKeys ["paths","/a","get"],[]⟩]⟩]

theorem ApiModel.ofRoot_mirrors_uneven : uneven.Distinct ∧ unevenModel.Mirrors .swagger uneven := by
  have distinct : uneven.Distinct := by
    simp [uneven,Json.Distinct,Json.DistinctMembers,Json.DistinctItems]
  have same : ofRoot .swagger uneven = unevenModel := by decide +kernel
  exact ⟨distinct,same ▸ (ApiModel.ofRoot_mirrors distinct .swagger).1⟩

end ApiReview
