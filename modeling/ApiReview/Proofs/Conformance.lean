import ApiReview.Schema.Build
import ApiReview.Proofs.Rounds
import ApiReview.Proofs.Verdict

/-! What a validator decides: whether documents satisfy the schema that it was built from. -/
namespace ApiReview

namespace Json
open Schema

mutual

/-- Whether objects have one member a name and numbers are whole, found by looking through the
value. -/
def isPlain : Json → Bool
  | .number (.integer _ _) => true
  | .number _ => false
  | .array items => itemsPlain items
  | .object members => membersPlain members
  | _ => true

def itemsPlain : List Json → Bool
  | [] => true
  | v :: rest => isPlain v && itemsPlain rest

def membersPlain : List (String × Json) → Bool
  | [] => true
  | (name,v) :: rest => !rest.any (sameText name ·.1) && isPlain v && membersPlain rest

end

mutual

theorem plain_of_isPlain : ∀ {v : Json}, v.isPlain = true → v.Plain
  | .number (.integer i fits), _ => ⟨trivial,i,fits,rfl⟩
  | .number (.float _), check => by simp [isPlain] at check
  | .array items, check =>
    have each := plain_of_itemsPlain check
    ⟨distinctItems_iff.mpr fun v member => (each v member).distinct,
      wholeItems_iff.mpr fun v member => (each v member).whole⟩
  | .object ms, check =>
    have ⟨names,each⟩ := plain_of_membersPlain check
    ⟨⟨names,distinctMembers_iff.mpr fun m member => (each m member).distinct⟩,
      wholeMembers_iff.mpr fun m member => (each m member).whole⟩
  | .null, _ | .bool _, _ | .string _, _ => ⟨trivial,trivial⟩

theorem plain_of_itemsPlain : ∀ {vs : List Json}, itemsPlain vs = true → ∀ v ∈ vs, v.Plain
  | [], _ => by simp
  | v :: rest, check => by
    simp only [itemsPlain,Bool.and_eq_true] at check
    exact List.forall_mem_cons.mpr ⟨plain_of_isPlain check.1,plain_of_itemsPlain check.2⟩

theorem plain_of_membersPlain : ∀ {ms : List (String × Json)}, membersPlain ms = true →
    (ms.map Prod.fst).Nodup ∧ ∀ m ∈ ms, m.2.Plain
  | [], _ => by simp
  | (name,v) :: rest, check => by
    simp only [membersPlain,Bool.and_eq_true,Bool.not_eq_true',List.any_eq_false,sameText_eq,
      beq_iff_eq] at check
    obtain ⟨⟨new,here⟩,later⟩ := check
    obtain ⟨names,each⟩ := plain_of_membersPlain later
    refine ⟨List.nodup_cons.mpr ⟨fun again => ?_,names⟩,
      List.forall_mem_cons.mpr ⟨plain_of_isPlain here,each⟩⟩
    obtain ⟨m,member,same⟩ := List.mem_map.mp again
    exact new m member same.symm

end

end Json

namespace Bundled

/-- The documents at hand, all of them plain. -/
def atHand : { list : List Json // ∀ v ∈ list, v.isPlain = true } :=
  ⟨Draft4.applied :: wellKnown.map (·.2.document),by decide +kernel⟩

theorem retrieve_plain {uri : String} {v : Json} (found : retrieve uri = .ok v) : v.Plain := by
  unfold retrieve at found
  split at found
  · next resource known =>
    cases found
    obtain ⟨before,after,same,_⟩ := List.lookup_eq_some_iff.mp known
    have listed : (_,resource) ∈ wellKnown := same ▸ List.mem_append_right before List.mem_cons_self
    refine Json.plain_of_isPlain (atHand.2 _ (List.mem_cons_of_mem _ ?_))
    exact List.mem_map.mpr ⟨_,listed,rfl⟩
  · cases found

theorem draft_plain : Draft4.applied.Plain :=
  Json.plain_of_isPlain (atHand.2 _ List.mem_cons_self)

end Bundled

namespace Schema
open Meaning

/-- A validator that is built decides what its schema means. Given is a document without repeated
names whose numbers are whole, as those of the schema are; then to accept it and to find nothing
are one thing, and both are that it satisfies the schema, provided that no questions on one value
rest on one another without end. Satisfaction in turn is what the keywords say, in all questions
that come up. -/
theorem Validator.decides {schema document : Json} {validator : Validator}
    (built : Validator.build Bundled.retrieve schema = .ok validator) (plainSchema : schema.Plain)
    (plainDocument : document.Plain) :
    (validator.accepts document = true ↔ validator.findings document = []) ∧
      ∃ r, gatherFor Bundled.retrieve schema = .ok r ∧
        (Grounded r ⟨defaultBase,schema,document⟩ →
          (validator.accepts document = true ↔
            Meaning.Holds r .ordered ⟨defaultBase,schema,document⟩) ∧
          ∀ q, Reaches r ⟨defaultBase,schema,document⟩ q →
            (Meaning.Holds r .ordered q ↔ q.Says r .ordered (Meaning.Holds r .ordered))) := by
  refine ⟨(findings_eq_nil_iff validator document).symm,?_⟩
  obtain ⟨r,gathered,later⟩ := Success.bind_iff.mp built
  obtain ⟨_,_,done⟩ := Success.bind_iff.mp later
  obtain ⟨keys,holds⟩ := read_holds done
  have all : r.All Json.Plain := gatherFor_all Json.plain_hereditary
    (fun _ _ => Bundled.retrieve_plain) Bundled.draft_plain plainSchema gathered
  refine ⟨r,gathered,fun grounded => ⟨?_,fun q reaches => ?_⟩⟩
  · exact Validator.accepts_iff all holds plainSchema plainDocument grounded.ends
  · exact (grounded.ends.of_reaches reaches).holds_iff

/-- A schema and a document, with the verdict that the validator is to come to. -/
structure Trial where
  schema : Json
  document : Json
  verdict : Bool

namespace Trial

def question (trial : Trial) : Question := ⟨defaultBase,trial.schema,trial.document⟩

/-- Whether the schema can be used, the verdict is the one to come to, and the questions on the
document come to an end within a few steps. -/
def comesOut (trial : Trial) : Bool :=
  trial.schema.isPlain && trial.document.isPlain &&
    (Validator.build Bundled.retrieve trial.schema).toOption.any
      (·.accepts trial.document == trial.verdict) &&
    (gatherFor Bundled.retrieve trial.schema).toOption.any (exhausts · 9 trial.question)

/-- Trees whose nodes have a name each, and none of which is marked. -/
def treeSchema : Json :=
  .object [("required",.array [.string "name"]),
    ("properties",.object [("nodes",.object [("items",.object [("$ref",.string "#")])])]),
    ("not",.object [("required",.array [.string "marked"])])]

def tree : Trial where
  schema := treeSchema
  document := .object [("name",.string "a"),("nodes",.array [.object [("name",.string "b")]])]
  verdict := true

def markedTree : Trial where
  schema := treeSchema
  document := .object [("name",.string "a"),
    ("nodes",.array [.object [("name",.string "b"),("marked",.bool false)]])]
  verdict := false

/-- One object with its members in either order. -/
def forward : Json := .object [("a",.string "x"),("b",.string "y")]

def backward : Json := .object [("b",.string "y"),("a",.string "x")]

def reorderedItems : Trial :=
  ⟨.object [("uniqueItems",.bool true)],.array [forward,backward],true⟩

def reorderedChoice : Trial := ⟨.object [("enum",.array [forward])],backward,false⟩

/-- An odd number whose nearest double is even. -/
def oddMultiple : Trial := ⟨.object [("multipleOf",.int 2)],.int 9007199254740993,true⟩

/-- Trials that come out so. -/
def made : { list : List Trial // ∀ trial ∈ list, trial.comesOut = true } :=
  ⟨[tree,markedTree,reorderedItems,reorderedChoice,oddMultiple],by decide +kernel⟩

/-- What a trial says of the validator and of what was gathered for the schema. -/
theorem held (trial : Trial) (tried : trial ∈ made.1) : trial.schema.Plain ∧ trial.document.Plain ∧
    ∃ validator r, Validator.build Bundled.retrieve trial.schema = .ok validator ∧
      validator.accepts trial.document = trial.verdict ∧
      gatherFor Bundled.retrieve trial.schema = .ok r ∧ Ends r trial.question := by
  have out := made.2 trial tried
  simp only [comesOut,Bool.and_eq_true,Option.any_eq_true,Success.toOption_iff,beq_iff_eq] at out
  obtain ⟨⟨⟨one,two⟩,validator,built,same⟩,r,gathered,done⟩ := out
  exact ⟨Json.plain_of_isPlain one,Json.plain_of_isPlain two,validator,r,built,same,gathered,
    .of_exhausts done⟩

end Trial

/-- Of two trees the one without a mark satisfies the schema of trees. -/
theorem Validator.decides_trees : ∃ validator r,
    Validator.build Bundled.retrieve Trial.treeSchema = .ok validator ∧
    gatherFor Bundled.retrieve Trial.treeSchema = .ok r ∧ Trial.treeSchema.Plain ∧
    (Trial.tree.document.Plain ∧ Grounded r Trial.tree.question ∧
      validator.findings Trial.tree.document = [] ∧
      Meaning.Holds r .ordered Trial.tree.question) ∧
    (Trial.markedTree.document.Plain ∧ Grounded r Trial.markedTree.question ∧
      validator.findings Trial.markedTree.document ≠ [] ∧
      ¬ Meaning.Holds r .ordered Trial.markedTree.question) := by
  obtain ⟨schema,plain,validator,r,built,accepted,gathered,ends⟩ :=
    Trial.tree.held (by simp [Trial.made])
  obtain ⟨_,marked,_,_,built',refused,gathered',ends'⟩ :=
    Trial.markedTree.held (by simp [Trial.made])
  cases built.symm.trans built'
  cases gathered.symm.trans gathered'
  obtain ⟨found,_,again,decides⟩ := Validator.decides built schema plain
  obtain ⟨found',_,again',decides'⟩ := Validator.decides built schema marked
  cases gathered.symm.trans again
  cases gathered.symm.trans again'
  have not : ¬ validator.accepts Trial.markedTree.document = true := by
    rw [refused]
    exact Bool.false_ne_true
  exact ⟨validator,r,built,gathered,schema,
    ⟨plain,ends.grounded,found.mp accepted,(decides ends.grounded).1.mp accepted⟩,
    ⟨marked,ends'.grounded,mt found'.mpr not,mt (decides' ends'.grounded).1.mpr not⟩⟩

/-- The verdict on a document is not what the draft says. -/
def Trial.Departs (trial : Trial) : Prop := ∃ validator r,
  Validator.build Bundled.retrieve trial.schema = .ok validator ∧
  gatherFor Bundled.retrieve trial.schema = .ok r ∧ trial.schema.Plain ∧ trial.document.Plain ∧
  Grounded r trial.question ∧
  ¬ (validator.accepts trial.document = true ↔ Meaning.Holds r .draft trial.question)

theorem Trial.departs {trial : Trial} (tried : trial ∈ made.1) (apart : ∀ r, ¬ (trial.verdict = true ↔
    trial.question.Says r .draft (Meaning.Holds r .draft))) : trial.Departs := by
  obtain ⟨schema,plain,validator,r,built,same,gathered,ends⟩ := trial.held tried
  refine ⟨validator,r,built,gathered,schema,plain,ends.grounded,?_⟩
  rw [same,ends.holds_iff]
  exact apart r

/-- By the draft the order of members makes no difference, and no double stands in for a whole
number. -/
theorem Validator.draft_undecided :
    Trial.reorderedItems.Departs ∧ Trial.reorderedChoice.Departs ∧ Trial.oddMultiple.Departs := by
  have alike : Json.alike Trial.forward Trial.backward = true := by decide
  refine ⟨Trial.departs (by simp [Trial.made]) fun r => ?_,
    Trial.departs (by simp [Trial.made]) fun r => ?_,
    Trial.departs (by simp [Trial.made]) fun r => ?_⟩
  · simp [Trial.question,Trial.reorderedItems,Question.Says,Meaning.Says,Json.lookup,
      Comparison.draft,alike]
  · suffices ∃ inner, baseWithin defaultBase [("enum",.array [Trial.forward])] = .ok inner by
      simpa [Trial.question,Trial.reorderedChoice,Question.Says,Meaning.Says,Json.lookup,
        Comparison.draft,Json.elements,Json.items?,alike]
    exact ⟨defaultBase,rfl⟩
  · have divisor : (Json.int 2).whole? = some 2 := by decide
    have odd : (Json.int 9007199254740993).whole? = some 9007199254740993 := by decide
    simp [Trial.question,Trial.oddMultiple,Question.Says,Meaning.Says,Json.lookup,
      Comparison.draft,divisor,odd]

end Schema
end ApiReview
