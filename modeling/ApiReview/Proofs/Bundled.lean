import ApiReview.Schema.Build
import ApiReview.Document.Model
import ApiReview.Proofs.Descent
import ApiReview.Proofs.Parts
import ApiReview.Proofs.Shape
import ApiReview.Proofs.Table

/-! The validators of the schemas at hand. Both schemas can be used without a request, both force the
shape that the model of a document is read from, and validation by either comes to an end. -/
namespace ApiReview
open Schema

/-! What documents have to look like, in either dialect, for nothing to be left out of the model. -/

def typesShape : Shape := .both (.kind .array) (.items (.kind .string))

def responseShape : Shape := .without "$ref" (.members (.named ["content"]) (.kind .object))

def operationShape : Shape :=
  .both (.kind .object) (.both
    (.members (.named ["responses"])
      (.both (.kind .object) (.members (.others "x-") responseShape)))
    (.members (.named ["produces"]) typesShape))

def itemShape : Shape :=
  .both (.kind .object) (.members (.named ApiModel.httpMethods) operationShape)

def apiShape : Shape := .both
  (.members (.named ["paths"]) (.both (.kind .object) (.members (.starting "/") itemShape)))
  (.members (.named ["produces"]) typesShape)

namespace Bundled

/-- The schema of a dialect as it is used. -/
def schema (d : Dialect) : Json := withoutSelfId (ofDialect d).document

/-- The schema of a dialect and the draft, which together need no other document. -/
def held (d : Dialect) : Resources := { draftResources with
  documents := (defaultBase.text,schema d) :: draftResources.documents }

def draftHome : Uri :=
  { scheme := some "http", authority := some "json-schema.org", path := "/draft-04/schema" }

/-- Short names are the names of a schema's own parts, and the places of the draft's parts. -/
def longName (short : String) : Uri :=
  if short.startsWith "/" then { draftHome with fragment := some short }
  else partUri defaultBase "definitions" short

def ownPages (d : Dialect) : List Page :=
  Group.pages defaultBase defaultBase "definitions" "" id (parts (schema d) "definitions")

/-- The parts of the draft, as they are referred to from elsewhere. -/
def draftPages (group : String) : List Page :=
  Group.pages draftHome defaultBase group draftHome.text (place group) (parts Draft4.applied group)

/-- The parts that the draft refers to itself. -/
def innerPages : List Page :=
  Group.pages draftHome draftHome "definitions" "" (place "definitions")
    (parts Draft4.applied "definitions")

def book : Dialect → List Page
  | .openApi3 => ownPages .openApi3
  | .swagger => ownPages .swagger ++ (draftPages "properties" ++ draftPages "definitions") ++ innerPages

/-! What is computed: neither schema is large, and each is looked through once. -/

/-- The dialects. Their schemas stand by themselves, are read by their books, force the shape that the
model is read from, and are settled. -/
def readable : { list : List Dialect // ∀ d ∈ list, stands (schema d) = true ∧
    Group.check defaultBase (schema d) "definitions" = true ∧
    (readBook false (book d) 50 (schema d)).toOption.any
      (fun v => forces v.table v.table.size v.root apiShape && v.settles 8 4) = true } :=
  ⟨Dialect.all,by
    intro d _
    cases d
    all_goals
      refine ⟨?_,?_,?_⟩
      all_goals decide +kernel⟩

/-- The dialects. Their schemas are schemas. -/
def usable : { list : List Dialect // ∀ d ∈ list, (check (schema d)).toOption = some () } :=
  ⟨Dialect.all,by
    intro d _
    cases d
    all_goals decide +kernel⟩

theorem draft_computed : (∀ group ∈ ["properties","definitions"],
      Group.check draftHome Draft4.applied group = true) ∧
    (resolve defaultBase "").toOption = some defaultBase ∧
    (resolve draftHome "").toOption = some draftHome ∧
    (resolve defaultBase draftHome.text).toOption = some draftHome := by
  decide +kernel

theorem mem_all (d : Dialect) : d ∈ Dialect.all := by
  cases d <;> decide

theorem schema_computed (d : Dialect) : stands (schema d) = true ∧
    Group.check defaultBase (schema d) "definitions" = true ∧
    (readBook false (book d) 50 (schema d)).toOption.any
      (fun v => forces v.table v.table.size v.root apiShape && v.settles 8 4) = true :=
  readable.2 d (mem_all d)

theorem schema_checked (d : Dialect) : check (schema d) = .ok () :=
  Success.toOption_iff.mp (usable.2 d (mem_all d))

theorem schema_read (d : Dialect) : ∃ v, readBook false (book d) 50 (schema d) = .ok v ∧
    forces v.table v.table.size v.root apiShape = true ∧ v.settles 8 4 = true := by
  obtain ⟨_,_,read⟩ := schema_computed d
  obtain ⟨v,done,computed⟩ := (Option.any_eq_true _ _).mp read
  exact ⟨v,Success.toOption_iff.mp done,(Bool.and_eq_true _ _).mp computed⟩

/-! What follows for all references. -/

theorem longName_injective (a b : String) (same : longName a = longName b) : a = b := by
  have apart (c d : String) : ({ draftHome with fragment := some c } : Uri) ≠
      partUri defaultBase "definitions" d := fun same =>
    absurd (congrArg Uri.scheme same) (show draftHome.scheme ≠ defaultBase.scheme by decide)
  unfold longName at same
  split at same <;> split at same
  · exact Option.some.inj (congrArg Uri.fragment same)
  · exact absurd same (apart a b)
  · exact absurd same.symm (apart b a)
  · exact place_inj (Option.some.inj (congrArg Uri.fragment same))

theorem held_own (d : Dialect) :
    Group (held d) defaultBase "definitions" (parts (schema d) "definitions") :=
  Group.of_check rfl rfl (schema_computed d).2.1

theorem held_draft (d : Dialect) {group : String} (known : group ∈ ["properties","definitions"]) :
    Group (held d) draftHome group (parts Draft4.applied group) := by
  have other : (draftHome.text == defaultBase.text) = false := by decide
  have same : (draftHome.text == "http://json-schema.org/draft-04/schema") = true := by decide
  have found : (held d).documents.lookup draftHome.text = some Draft4.applied := by
    simp only [held,draftResources,List.lookup_cons,other,same]
  exact Group.of_check found rfl (draft_computed.1 group known)

theorem longName_own {name : String} (plain : Pointer.plain name = true) :
    longName name = partUri defaultBase "definitions" name := by
  rw [longName,if_neg]
  intro front
  rw [String.startsWith_string_iff] at front
  have slash := List.all_eq_true.mp plain '/' (front.subset (by simp))
  exact absurd slash (by decide)

theorem longName_draft (group name : String) :
    longName (place group name) = partUri draftHome group name := by
  rw [longName,if_pos]
  · rfl
  · simp [String.startsWith_string_iff,place,String.toList_append]

theorem book_right (d : Dialect) : ∀ p ∈ book d, p.Right (held d) longName := by
  obtain ⟨_,own,inner,draft⟩ := draft_computed
  rw [Success.toOption_iff] at own inner draft
  have empty : '#' ∉ "".toList := by decide
  have front : '#' ∉ draftHome.text.toList := by decide
  have ownRight : ∀ p ∈ ownPages d, p.Right (held d) longName :=
    (held_own d).pages_right own empty fun m member =>
      longName_own ((held_own d).plainNames m member)
  have draftRight (group : String) (known : group ∈ ["properties","definitions"]) :
      ∀ p ∈ draftPages group, p.Right (held d) longName :=
    (held_draft d known).pages_right draft front fun m _ => longName_draft group m.1
  have innerRight : ∀ p ∈ innerPages, p.Right (held d) longName :=
    (held_draft d (by simp)).pages_right inner empty fun m _ =>
      longName_draft "definitions" m.1
  cases d with
  | openApi3 => exact ownRight
  | swagger =>
    intro p listed
    simp only [book,List.mem_append] at listed
    rcases listed with (own | properties | definitions) | inner
    · exact ownRight p own
    · exact draftRight _ (by simp) p properties
    · exact draftRight _ (by simp) p definitions
    · exact innerRight p inner

theorem gathered (d : Dialect) : gatherFor retrieve (schema d) = .ok (held d) :=
  gatherFor_stands retrieve (schema_computed d).1

theorem read_by_book {d : Dialect} {v : Schema.Validator}
    (done : readBook false (book d) 50 (schema d) = .ok v) : read false (held d) (schema d) = .ok v :=
  read_of_book longName_injective (book_right d) (by decide) done

/-- The schema of a dialect can be used without a request, and is read by its book. -/
theorem validator_eq (d : Dialect) : validator d = readBook false (book d) 50 (schema d) := by
  obtain ⟨v,done,_⟩ := schema_read d
  have built : validator d = Schema.Validator.build retrieve (schema d) := by cases d <;> rfl
  rw [built,Schema.Validator.build,gathered d,done]
  dsimp only [Bind.bind,Except.bind]
  rw [schema_checked d]
  exact read_by_book done

/-- It forces the shape that the model is read from. -/
theorem validator_forces (d : Dialect) : ∃ v, validator d = .ok v ∧
    forces v.table v.table.size v.root apiShape = true := by
  obtain ⟨v,done,forced,_⟩ := schema_read d
  exact ⟨v,(validator_eq d).trans done,forced⟩

/-- What conforms to the schema of a dialect has the shape that the model is read from. -/
theorem validator_shape {d : Dialect} {v : Schema.Validator} (built : validator d = .ok v)
    {document : Json} (holds : v.accepts document = true) : apiShape.Holds document := by
  obtain ⟨w,same,forced⟩ := validator_forces d
  obtain rfl : w = v := Except.ok.inj (same.symm.trans built)
  exact Schema.Validator.forces_sound forced holds

/-- The schema of a dialect is read without a reference that leads nowhere, and validation by it comes
to an end on every document. There are at most seven steps on one value. -/
theorem validator_terminates (d : Dialect) : ∃ v keys, validator d = .ok v ∧
    gatherFor retrieve (schema d) = .ok (held d) ∧ v.Holds (held d) keys (schema d) ∧
    ∀ document, v.Terminates 8 document := by
  obtain ⟨v,done,_,settled⟩ := schema_read d
  obtain ⟨keys,holds⟩ := read_holds (read_by_book done)
  exact ⟨v,keys,(validator_eq d).trans done,gathered d,holds,
    (Schema.Validator.Settled.of_settles settled).terminates⟩

end Bundled
end ApiReview
