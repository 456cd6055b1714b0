import ApiReview.Proofs.Acquisition
import ApiReview.Proofs.Conformance
import ApiReview.Proofs.Idle
import ApiReview.Proofs.Inward
import ApiReview.Proofs.Written

/-! Where a schema comes from. What is gathered for a schema depends on the answers to the requests
that are made for it and on nothing else; for a schema whose references stay inside there are none. -/
namespace ApiReview
namespace Schema

/-- What is requested for references, one after the other: the documents that are not there yet, up
to the first that is not had. -/
def Resources.requested (retrieve : String → Except String Json) :
    List Uri → Resources × List Pending → List String
  | [], _ => []
  | uri :: rest, state =>
    (if (state.1.documents.lookup uri.text).isSome then [] else [uri.text]) ++
      match fetch retrieve state uri with
      | .ok next => requested retrieve rest next
      | .error _ => []

/-- What is requested in gathering. -/
def Resources.requests (retrieve : String → Except String Json) :
    Nat → List Pending → Resources → List String
  | _, [], _ => []
  | 0, _, _ => []
  | n + 1, pending, r => match pending.mapM surveyAll with
    | .error _ => []
    | .ok list =>
      let found := list.foldl (· ++ ·) {}
      requested retrieve found.references (r.add found,[]) ++
        match found.references.foldlM (fetch retrieve) (r.add found,[]) with
        | .ok (r,pending) => requests retrieve n pending r
        | .error _ => []

/-- What is requested when the documents of a schema are gathered. -/
def requestsFor (retrieve : String → Except String Json) (schema : Json) : List String :=
  match baseWithin defaultBase ((schema.members?).getD []) with
  | .error _ => []
  | .ok base => Resources.requests retrieve memoryLimit [⟨defaultBase,schema⟩]
    { draftResources with documents := (base.text,schema) :: draftResources.documents }

section
variable {retrieve retrieve' : String → Except String Json}

theorem foldlM_fetch_congr {uris : List Uri} {state : Resources × List Pending}
    (same : ∀ u ∈ Resources.requested retrieve uris state, retrieve' u = retrieve u) :
    uris.foldlM (Resources.fetch retrieve') state = uris.foldlM (Resources.fetch retrieve) state := by
  induction uris generalizing state with
  | nil => rfl
  | cons uri rest ih =>
    obtain ⟨r,pending⟩ := state
    have here : Resources.fetch retrieve' (r,pending) uri =
        Resources.fetch retrieve (r,pending) uri := by
      unfold Resources.fetch
      dsimp only
      split
      · rfl
      · next absent => rw [same uri.text (by simp [Resources.requested,absent])]
    rw [List.foldlM_cons,List.foldlM_cons,here]
    cases next : Resources.fetch retrieve (r,pending) uri with
    | error e => rfl
    | ok state => exact ih fun u later => same u (by simp [Resources.requested,next,later])

/-- Gathering depends on the answers to its requests alone. -/
theorem gather_congr {n : Nat} {pending : List Pending} {r : Resources}
    (same : ∀ u ∈ Resources.requests retrieve n pending r, retrieve' u = retrieve u) :
    Resources.gather retrieve' n pending r = Resources.gather retrieve n pending r := by
  induction n generalizing pending r with
  | zero => cases pending <;> rfl
  | succ n ih =>
    cases pending with
    | nil => rfl
    | cons p others =>
      unfold Resources.requests at same
      unfold Resources.gather
      cases surveyed : (p :: others).mapM surveyAll with
      | error e => rfl
      | ok list =>
        rw [surveyed] at same
        dsimp only [Bind.bind,Except.bind]
        obtain ⟨first,later⟩ := List.forall_mem_append.mp same
        rw [foldlM_fetch_congr first]
        cases fetched : (list.foldl (· ++ ·) ({} : Survey)).references.foldlM
            (Resources.fetch retrieve) (r.add (list.foldl (· ++ ·) {}),[]) with
        | error e => rfl
        | ok state =>
          rw [fetched] at later
          exact ih later

theorem gatherFor_congr {schema : Json}
    (same : ∀ u ∈ requestsFor retrieve schema, retrieve' u = retrieve u) :
    gatherFor retrieve' schema = gatherFor retrieve schema := by
  unfold requestsFor at same
  unfold gatherFor
  cases home : baseWithin defaultBase ((schema.members?).getD []) with
  | error e => rfl
  | ok base =>
    rw [home] at same
    exact gather_congr same

end

section
variable {schema : Json} (inward : Inward schema) (retrieve : String → Except String Json)
include inward

theorem requests_inward (n : Nat) (r : Resources) :
    Resources.requests retrieve (n + 1) [⟨defaultBase,schema⟩] r = [] := by
  simp only [Resources.requests,List.mapM_cons,List.mapM_nil]
  cases surveyed : surveyAll ⟨defaultBase,schema⟩ with
  | error e => rfl
  | ok s =>
    have whole : [s].foldl (· ++ ·) ({} : Survey) = s := rfl
    dsimp only [Bind.bind,Except.bind,pure,Except.pure]
    rw [whole,surveyAll_inward inward s surveyed]
    cases n <;> rfl

theorem requestsFor_inward : requestsFor retrieve schema = [] := by
  unfold requestsFor
  split
  · rfl
  · exact requests_inward inward retrieve (memoryLimit - 1) _

/-- A schema whose references stay inside can be used, or cannot, wherever documents would be had
from, and comes to the same validator. -/
theorem build_inward (retrieve' : String → Except String Json) :
    Validator.build retrieve' schema = Validator.build retrieve schema := by
  have same : gatherFor retrieve' schema = gatherFor retrieve schema :=
    gatherFor_congr (by simp [requestsFor_inward inward retrieve])
  rw [Validator.build,Validator.build,same]

end

end Schema

/-! The schemas at hand, read from their texts. -/

namespace Bundled
open Schema

theorem documents_shallow :
    (Dialect.all.all fun d => (ofDialect d).document.depth ≤ Json.depthLimit) = true := by
  decide +kernel

theorem document_readable (d : Dialect) : Json.Readable Json.depthLimit (ofDialect d).document := by
  have listed : (ofDialect d).document ∈ wellKnown.map (·.2.document) := by
    cases d
    · exact .tail _ (.head _)
    · exact .tail _ (.tail _ (.head _))
  have plain := Json.plain_of_isPlain (atHand.2 _ (List.mem_cons_of_mem _ listed))
  have shallow := List.all_eq_true.mp documents_shallow d (mem_all d)
  exact ⟨plain.whole,plain.distinct,of_decide_eq_true shallow⟩

theorem read_text (d : Dialect) : Json.read (ofDialect d).text = .ok (ofDialect d).document := by
  cases d with
  | swagger =>
    have blank : ∀ c ∈ ['\n'], Json.isBlank c = true := List.forall_mem_singleton.mpr rfl
    exact Json.read_lines ⟨2,false⟩ (document_readable .swagger) blank
  | openApi3 =>
    have none : ∀ c ∈ ([] : List Char), Json.isBlank c = true := by simp
    have all := Json.read_lines ⟨2,true⟩ (document_readable .openApi3) none
    rwa [String.ofList_nil,String.append_empty] at all

theorem text_front (d : Dialect) : ∃ cs, (ofDialect d).text.toList = '{' :: cs := by
  have front (style : Json.Indent) : ∃ cs,
      ((ofDialect d).document.indented style).toList = '{' :: cs := by
    obtain ⟨ms,same⟩ : ∃ ms, (ofDialect d).document = .object ms := by cases d <;> exact ⟨_,rfl⟩
    obtain ⟨gap,space,last,_,_,_,chars⟩ := (Json.indentedChars_layout style).object 0 ms
    exact ⟨_,by rw [same,Json.indented,chars,String.toList_ofList]⟩
  cases d with
  | swagger =>
    obtain ⟨cs,same⟩ := front ⟨2,false⟩
    have text : (ofDialect .swagger).text =
      (ofDialect .swagger).document.indented ⟨2,false⟩ ++ "\n" := rfl
    exact ⟨cs ++ "\n".toList,by rw [text,String.toList_append,same,List.cons_append]⟩
  | openApi3 => exact front ⟨2,true⟩

end Bundled

namespace Remote
open Schema

theorem withoutMark_text (d : Dialect) :
    withoutMark (Bundled.ofDialect d).text = (Bundled.ofDialect d).text := by
  obtain ⟨cs,front⟩ := Bundled.text_front d
  unfold withoutMark
  split
  · next rest same =>
    rw [front,List.cons.injEq] at same
    exact absurd same.1 (by decide)
  · rfl

/-- The text of a schema at hand, as a server answers it, comes to the bundled validator. -/
theorem download_text {d : Dialect} {server : Server} {url : String} {status : Nat}
    (success : isSuccess status = true)
    (answers : server url = .answered status (Bundled.ofDialect d).text) {v : Schema.Validator}
    (built : Bundled.validator d = .ok v) : download server url = .ok v := by
  have inward : Schema.Inward (Bundled.schema d) :=
    Schema.inward_of_stands (Bundled.schema_computed d).1
  have same : Schema.Validator.build (retrieve server) (Bundled.schema d) = Bundled.validator d :=
    (Schema.build_inward inward Bundled.retrieve (retrieve server)).trans (by cases d <;> rfl)
  simp only [download,fetch,answers,success,if_true,withoutMark_text,Bundled.read_text,
    Except.mapError,Bind.bind,Except.bind]
  rw [← Bundled.schema,same,built]

theorem Cache.Reached.bundled_eq {c : Cache} (reached : c.Reached) {d : Dialect}
    {v : Schema.Validator} (built : Bundled.validator d = .ok v) :
    ∃ n, (c.bundled d).2 = .ok (n,v) := by
  rcases c.bundled_cases d with ⟨found,c',has,done,_⟩ | ⟨w,c',_,built',done,_⟩
  · obtain rfl := Except.ok.inj (built.symm.trans (reached.calm.sound d found has))
    exact ⟨found.1,by rw [done]⟩
  · obtain rfl := Except.ok.inj (built.symm.trans built')
    exact ⟨_,by rw [done]⟩

/-- For a schema whose references stay inside nothing is requested, and with the documents at hand or
with a server in reach it comes to the same validator or fails in the same way. So where a server
answers with the text of the schema at hand, and no earlier answer is kept, what is loaded is remote
and is the validator that bundled schemas have. -/
theorem origin_irrelevant :
    (∀ schema, Inward schema → ∀ server : Server,
      requestsFor Bundled.retrieve schema = [] ∧ requestsFor (retrieve server) schema = [] ∧
      Validator.build (retrieve server) schema = Validator.build Bundled.retrieve schema) ∧
    ∀ (d e : Dialect) (server : Server) (url : String) (status : Nat), isSuccess status = true →
      server url = .answered status (Bundled.ofDialect d).text →
      ∀ c : Cache, c.Reached → c.isCached e url = false → ∃ c' number v,
        c.load server e url = (c',.ok ⟨number,v,.remote url,true⟩) ∧
        ∀ other : Cache, other.Reached → ∃ n, (other.bundled d).2 = .ok (n,v) := by
  refine ⟨fun schema inward server => ?_,fun d e server url status success answers c _ lacks => ?_⟩
  · exact ⟨requestsFor_inward inward _,requestsFor_inward inward _,build_inward inward _ _⟩
  · obtain ⟨v,built,_⟩ := Bundled.validator_forces d
    obtain ⟨c',loaded,_⟩ := Cache.load_built (Cache.isCached_iff.mp lacks)
      (download_text success answers built)
    exact ⟨c',_,v,loaded,fun other reached => reached.bundled_eq built⟩

/-- A server that answers every request with a schema. -/
def answering (schema : String) : Server := fun _ => .answered 200 schema

/-- A schema with a reference, and a server that has what is at hand. -/
theorem origin_irrelevant_noted :
    Validator.build (retrieve (answering "")) Loss.noted = Validator.build Bundled.retrieve Loss.noted ∧
    ∃ c' number v, Cache.empty.load (answering Bundled.openApi3.text) .openApi3 "http://mock/s" =
      (c',.ok ⟨number,v,.remote "http://mock/s",true⟩) := by
  obtain ⟨alike,same⟩ := origin_irrelevant
  obtain ⟨_,_,stand,_⟩ := Loss.noted_computed
  obtain ⟨c',number,v,loaded,_⟩ := same .openApi3 .openApi3 (answering Bundled.openApi3.text)
    "http://mock/s" 200 rfl rfl .empty .empty rfl
  exact ⟨(alike Loss.noted (inward_of_stands stand) (answering "")).2.2,c',number,v,loaded⟩

/-- A schema that names a dialect of its own. -/
def ownDialect : Json := .object [("$schema",.string "http://example.com/dialect")]

theorem ownDialect_computed :
    requestsFor Bundled.retrieve ownDialect = ["http://example.com/dialect"] ∧
    (Validator.build Bundled.retrieve ownDialect).toOption.isNone = true ∧
    (Validator.build (retrieve (answering "\x7b\x7d")) ownDialect).toOption.isSome = true := by
  decide +kernel

/-- What names a dialect is requested like a reference, although the schema has no reference at all:
it is of use with a server and of none without. -/
theorem origin_relevant_ownDialect :
    (∀ ms, Nested ownDialect (.object ms) → stringMember? "$ref" ms = none) ∧
    requestsFor Bundled.retrieve ownDialect ≠ [] ∧ ∃ server,
      (Validator.build (retrieve server) ownDialect).toOption.isSome ≠
        (Validator.build Bundled.retrieve ownDialect).toOption.isSome := by
  obtain ⟨asked,refused,used⟩ := ownDialect_computed
  refine ⟨fun ms nested => ?_,by simp [asked],answering "\x7b\x7d",?_⟩
  · cases nested with
    | self => rfl
    | inside member under _ =>
      obtain rfl := List.mem_singleton.mp member
      cases under
  · rw [used,← Option.not_isNone,refused]
    decide

end Remote
end ApiReview
