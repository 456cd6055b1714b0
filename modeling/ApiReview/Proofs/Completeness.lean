import ApiReview.Document.Context
import ApiReview.Proofs.Bundled
import ApiReview.Proofs.Verdict

/-! Completeness of the model. Where the schema of its dialect has nothing to say of a document,
the model has a node for every member that it is read from, in the same order. -/
namespace ApiReview
open Schema

theorem forall₂_filterMap {α β : Type} {R : α → β → Prop} {f : α → Option β} {p : α → Bool}
    {q : β → Bool} {list : List α}
    (kept : ∀ a ∈ list, p a = true → ∃ b, f a = some b ∧ q b = true ∧ R a b)
    (others : ∀ a ∈ list, p a = false → ∀ b, f a = some b → q b = false) :
    List.Forall₂ R (list.filter p) ((list.filterMap f).filter q) := by
  induction list with
  | nil => exact .nil
  | cons a rest ih =>
    have later := ih (fun b inside => kept b (List.mem_cons_of_mem a inside))
      (fun b inside => others b (List.mem_cons_of_mem a inside))
    cases wanted : p a with
    | true =>
      obtain ⟨b,made,fits,related⟩ := kept a List.mem_cons_self wanted
      simpa only [List.filter_cons,wanted,List.filterMap_cons,made,fits,if_true] using
        List.Forall₂.cons related later
    | false =>
      cases made : f a with
      | none => simpa [List.filter_cons,wanted,List.filterMap_cons,made] using later
      | some b =>
        have unfit := others a List.mem_cons_self wanted b made
        simpa [List.filter_cons,wanted,List.filterMap_cons,made,unfit] using later

theorem forall₂_map {α β : Type} {R : α → β → Prop} {f : α → β} {list : List α}
    (each : ∀ a ∈ list, R a (f a)) : List.Forall₂ R list (list.map f) :=
  List.forall₂_map_right_iff.mpr (List.forall₂_same.mpr each)

namespace ApiModel

/-- An entry for each item of a list of texts. -/
def ItemsRead (base : Pointer) (items : List Json) (entries : List MediaTypeEntry) : Prop :=
  List.Forall₂ (fun item e => item.1 = .string e.mediaType ∧ e.pointer = base.index item.2)
    items.zipIdx entries

/-- An entry for each member of an object. -/
def NamesRead (base : Pointer) (ms : List (String × Json)) (entries : List MediaTypeEntry) : Prop :=
  List.Forall₂ (fun m e => e.mediaType = m.1 ∧ e.pointer = base.key m.1) ms entries

/-- An entry for each item of the list under a name, which there is. -/
def ProducesRead (base : Pointer) (value : Json) (entries : List MediaTypeEntry) : Prop :=
  ∃ items, value = .array items ∧ ItemsRead (base.key "produces") items entries

/-- An entry for each media type of a response, as the dialects declare them. -/
def ContentRead (dialect : Dialect) (root : Json) (base : Pointer)
    (operation : List (String × Json)) (place : Pointer) (response : String × Json)
    (entries : List MediaTypeEntry) : Prop :=
  match dialect with
  | .openApi3 =>
    (∀ contents, response.2.get? "content" = some contents → response.2.get? "$ref" = none →
      response.1.startsWith "x-" = false → contents.isObject = true) ∧
    ∀ ms, response.2.get? "content" = some (.object ms) →
      NamesRead (place.key "content") ms entries
  | .swagger => match Json.lookup "produces" operation, root.get? "produces" with
    | some own, _ => ProducesRead base own entries
    | none, some shared => ProducesRead .root shared entries
    | none, none => entries = []

/-- A response for a member, with all its media types. -/
def ResponseRead (dialect : Dialect) (root : Json) (base : Pointer)
    (operation : List (String × Json)) (member : String × Json) (r : Response) : Prop :=
  r.status = member.1 ∧ r.pointer = (base.key "responses").key member.1 ∧
    ContentRead dialect root base operation r.pointer member r.content

/-- An operation for a member, with all its responses. -/
def OperationRead (dialect : Dialect) (root : Json) (base : Pointer) (member : String × Json)
    (o : Operation) : Prop :=
  o.method = member.1 ∧ o.pointer = base.key member.1 ∧ ∃ operation,
    member.2 = .object operation ∧
    (∀ value, Json.lookup "responses" operation = some value → value.isObject = true) ∧
    List.Forall₂ (ResponseRead dialect root o.pointer operation) (membersAt "responses" operation)
      o.responses

/-- A path item for a member, with all its operations. The members that are methods as they are
written are told from others by their places. -/
def PathRead (dialect : Dialect) (root : Json) (member : String × Json) (item : PathItem) : Prop :=
  item.path = member.1 ∧ item.pointer = (Pointer.root.key "paths").key member.1 ∧ ∃ ms,
    member.2 = .object ms ∧
    List.Forall₂ (OperationRead dialect root item.pointer)
      (ms.filter fun m => httpMethods.contains m.1)
      (item.operations.filter fun o => o.pointer = item.pointer.key o.method)

/-- A model that leaves nothing out of a document. -/
def Complete (dialect : Dialect) (root : Json) (api : ApiModel) : Prop :=
  (∀ value, root.get? "paths" = some value → value.isObject = true) ∧
  List.Forall₂ (PathRead dialect root)
    ((membersAt "paths" (root.members?.getD [])).filter fun m => m.1.startsWith "/")
    (api.paths.filter fun item => item.path.startsWith "/")

section
variable {root value : Json} {ms : List (String × Json)}

theorem stringEntries_read (base : Pointer) (items : List Json) (n : Nat)
    (texts : ∀ v ∈ items, ∃ s, v = .string s) :
    List.Forall₂ (fun item e => item.1 = .string e.mediaType ∧ e.pointer = base.index item.2)
      (items.zipIdx n) (stringEntries base n items) := by
  induction items generalizing n with
  | nil => exact .nil
  | cons v rest ih =>
    obtain ⟨s,rfl⟩ := texts v List.mem_cons_self
    rw [List.zipIdx_cons,stringEntries]
    exact .cons ⟨rfl,rfl⟩ (ih (n + 1) fun w later => texts w (List.mem_cons_of_mem _ later))

/-- A list of types that has its shape is read as a whole. -/
theorem produces?_read (shape : typesShape.Holds value) (base : Pointer)
    (found : Json.lookup "produces" ms = some value) :
    ∃ entries, produces? base ms = some entries ∧ ProducesRead base value entries := by
  obtain ⟨array,texts⟩ := shape
  cases value with
  | array items =>
    refine ⟨_,by simp [produces?,found,Json.items?],items,rfl,stringEntries_read _ items 0 ?_⟩
    intro v inside
    have text := texts items rfl v inside
    cases v with
    | string s => exact ⟨s,rfl⟩
    | _ => cases text
  | _ => cases array

/-- What is under `responses` is an object. -/
theorem responses_object {operation : List (String × Json)}
    (shape : operationShape.Holds (.object operation))
    (found : Json.lookup "responses" operation = some value) : ∃ rs, value = .object rs ∧
      ∀ m ∈ rs, m.1.startsWith "x-" = false → responseShape.Holds m.2 := by
  obtain ⟨object,each⟩ := shape.2.1.get? List.mem_cons_self found
  cases value with
  | object rs => exact ⟨rs,rfl,fun m inside own => each rs rfl m inside (by simp [Names.has,own])⟩
  | _ => cases object

theorem content_read (shape : apiShape.Holds root) {operation : List (String × Json)}
    (inside : operationShape.Holds (.object operation)) {response : String × Json}
    (member : response ∈ membersAt "responses" operation) (dialect : Dialect)
    (base place : Pointer) : ContentRead dialect root base operation place response
      (content dialect root base operation place response.2) := by
  cases dialect with
  | openApi3 =>
    refine ⟨fun contents found absent own => ?_,fun ms found => ?_⟩
    · cases responses : Json.lookup "responses" operation with
      | none => simp [membersAt,responses] at member
      | some value =>
        obtain ⟨rs,rfl,each⟩ := responses_object inside responses
        have listed : response ∈ rs := by simpa [membersAt,responses,Json.members?] using member
        obtain ⟨ms,object,_⟩ := Json.get?_eq_some_iff.mp found
        rw [object] at absent
        have has := (each response listed own ms object absent).get? List.mem_cons_self found
        cases contents with
        | object => rfl
        | _ => cases has
    · simp only [content,contentEntries,found,Option.bind_some,Json.members?,Option.getD_some]
      exact forall₂_map fun m _ => ⟨rfl,rfl⟩
  | swagger =>
    cases own : Json.lookup "produces" operation with
    | some value =>
      obtain ⟨entries,read,complete⟩ :=
        produces?_read (inside.2.2.get? List.mem_cons_self own) base own
      simpa only [ContentRead,own,content,read,Option.getD_some] using complete
    | none =>
      have without : produces? base operation = none := by simp [produces?,own]
      cases shared : root.get? "produces" with
      | none =>
        have nothing : produces? .root (root.members?.getD []) = none := by
          cases root <;> simp_all [produces?,Json.get?,Json.members?,Json.lookup]
        simp [ContentRead,own,shared,content,without,nothing]
      | some value =>
        obtain ⟨ms,rfl,found⟩ := Json.get?_eq_some_iff.mp shared
        obtain ⟨entries,read,complete⟩ :=
          produces?_read (shape.2.get? List.mem_cons_self shared) .root found
        simpa only [ContentRead,own,shared,content,without,Json.members?,Option.getD_some,read,
          Option.getD_none] using complete

theorem operation_read (shape : apiShape.Holds root) {member : String × Json}
    (inside : operationShape.Holds member.2) (dialect : Dialect) (base : Pointer) :
    ∃ operation, member.2 = .object operation ∧ OperationRead dialect root base member
      ⟨member.1,base.key member.1,responses (content dialect root (base.key member.1) operation)
        (base.key member.1) operation⟩ := by
  obtain ⟨name,value⟩ := member
  cases value with
  | object operation =>
    refine ⟨operation,rfl,rfl,rfl,operation,rfl,fun value found => ?_,?_⟩
    · obtain ⟨rs,rfl,_⟩ := responses_object inside found
      rfl
    · exact forall₂_map fun m listed =>
        ⟨rfl,rfl,content_read shape inside listed dialect (base.key name) _⟩
  | _ => cases inside.1

theorem lowerCase_method {name : String} (known : name ∈ httpMethods) : lowerCase name = name := by
  have lower : ∀ name ∈ httpMethods, name.toList.map Char.toLower = name.toList := by decide
  exact String.toList_inj.mp (String.toList_map.trans (lower name known))

theorem operations_read (shape : apiShape.Holds root)
    (inside : (Shape.members (.named httpMethods) operationShape).Holds (.object ms))
    (dialect : Dialect) (base : Pointer) :
    List.Forall₂ (OperationRead dialect root base) (ms.filter fun m => httpMethods.contains m.1)
      ((operations (content dialect root) base ms).filter fun o => o.pointer = base.key o.method) := by
  refine forall₂_filterMap (fun m listed known => ?_) fun (name,value) _ unknown o made => ?_
  · have same := lowerCase_method (List.contains_iff_mem.mp known)
    have method : isMethod m.1 = true := by rwa [isMethod,same]
    obtain ⟨operation,object,complete⟩ :=
      operation_read shape (inside ms rfl m listed known) dialect base
    refine ⟨_,?_,?_,complete⟩
    · simp [method,same,object,Json.members?]
    · simp
  · cases method : isMethod name with
    | false => simp [method] at made
    | true =>
      simp only [method,if_true] at made
      obtain ⟨operation,_,rfl⟩ := Option.map_eq_some_iff.mp made
      refine decide_eq_false fun same => ?_
      have lower : name = lowerCase name := Pointer.key_injective same
      rw [isMethod,← lower,unknown] at method
      cases method

/-- What has the shape that the schemas force is read as a whole. -/
theorem complete_of_shape (shape : apiShape.Holds root) (dialect : Dialect) :
    Complete dialect root (ofRoot dialect root) := by
  refine ⟨fun value found => ?_,?_⟩
  · have object := (shape.1.get? List.mem_cons_self found).1
    cases value with
    | object => rfl
    | _ => cases object
  · have same : ((root.get? "paths").bind Json.members?).getD [] =
        membersAt "paths" (root.members?.getD []) := by
      cases root <;> rfl
    rw [ofRoot,pathItems,same]
    refine forall₂_filterMap (fun m listed slashed => ?_) fun m _ other item made => ?_
    · have item : itemShape.Holds m.2 := by
        cases root with
        | object ms =>
          cases found : Json.lookup "paths" ms with
          | none => simp [membersAt,Json.members?,found] at listed
          | some value =>
            obtain ⟨object,each⟩ := shape.1.get? List.mem_cons_self found
            cases value with
            | object ps =>
              have inside : m ∈ ps := by simpa [membersAt,Json.members?,found] using listed
              exact each ps rfl m inside slashed
            | _ => cases object
        | _ => simp [membersAt,Json.members?,Json.lookup] at listed
      obtain ⟨path,value⟩ := m
      cases value with
      | object ms =>
        exact ⟨_,rfl,slashed,rfl,rfl,ms,rfl,operations_read shape item.2 dialect _⟩
      | _ => cases item.1
    · obtain ⟨ms,_,rfl⟩ := Option.map_eq_some_iff.mp made
      exact other

end

end ApiModel

namespace Document

/-- Of a document that conforms to the bundled schema of its dialect nothing is left out. -/
theorem complete {d : Document} {v : Schema.Validator}
    (built : Bundled.validator d.dialect = .ok v) (conforms : v.findings d.root = []) :
    ApiModel.Complete d.dialect d.root (Context.ofDocument d).api :=
  ApiModel.complete_of_shape
    (Bundled.validator_shape built ((v.findings_eq_nil_iff d.root).mp conforms)) d.dialect

/-- A description with a node of each kind. -/
def petList : Document := ⟨"",.object [
  ("openapi",.string "3.0.0"),
  ("info",.object [("title",.string "Pets"),("version",.string "1.0.0")]),
  ("paths",.object [("/pets",.object [("get",.object [("responses",.object [
    ("200",.object [("description",.string "all pets"),
      ("content",.object [("application/json",.object [])])])])])])])]⟩

theorem petList_accepted : (readBook false (Bundled.book .openApi3) 50
    (Bundled.schema .openApi3)).toOption.any (fun v => v.accepts petList.root) = true := by
  decide +kernel

theorem complete_petList : ∃ v, Bundled.validator petList.dialect = .ok v ∧
    v.findings petList.root = [] ∧
    ApiModel.Complete .openApi3 petList.root (Context.ofDocument petList).api := by
  obtain ⟨v,done,accepted⟩ := (Option.any_eq_true _ _).mp petList_accepted
  have built : Bundled.validator petList.dialect = .ok v :=
    (Bundled.validator_eq .openApi3).trans (Success.toOption_iff.mp done)
  have conforms := (v.findings_eq_nil_iff petList.root).mpr accepted
  exact ⟨v,built,conforms,complete built conforms⟩

end Document
end ApiReview
