import Mathlib.Data.List.Basic
import ApiReview.Proofs.Escapes

/-! Pointer texts that are read for a document. Each token is typed by the node that the segments
before it lead to; a pointer that leads somewhere is read back as it was, and what has been read once
is not read otherwise again. -/
namespace ApiReview

namespace Segment

/-- The token is the number in decimal digits, behind a plus sign or not, with zeros in front or
not, and the number is a word. -/
def Reads (token : String) (n : Nat) : Prop := ∃ digits : List Char,
  (token.toList = digits ∨ token.toList = '+' :: digits) ∧ digits ≠ [] ∧
  (∀ c ∈ digits, Decimal.isDigit c = true) ∧ Decimal.value digits = n ∧ n < twoTo 64

theorem position?_signed {token : String} {digits : List Char} (plus : token.toList = '+' :: digits) :
    position? token =
      if digits ≠ [] ∧ digits.all Decimal.isDigit ∧ Decimal.value digits < twoTo 64
      then some (Decimal.value digits) else none := by simp [position?,plus]

theorem position?_eq_some_iff {token : String} {n : Nat} :
    position? token = some n ↔ Reads token n := by
  constructor
  · intro read
    have digits : ∃ ds, (token.toList = ds ∨ token.toList = '+' :: ds) ∧
        (if ds ≠ [] ∧ ds.all Decimal.isDigit ∧ Decimal.value ds < twoTo 64
          then some (Decimal.value ds) else none) = some n := by
      simp only [position?] at read
      cases shape : token.toList with
      | nil => simp [shape] at read
      | cons c cs =>
        by_cases plus : c = '+'
        · subst c
          exact ⟨cs,.inr rfl,by simpa [shape] using read⟩
        · refine ⟨c :: cs,.inl rfl,?_⟩
          rw [shape] at read
          split at read
          · next rest same => exact absurd (List.cons.inj same).1 plus
          · exact read
    obtain ⟨ds,written,value⟩ := digits
    obtain ⟨⟨some,each,word⟩,same⟩ := Option.ite_none_right_eq_some.mp value
    obtain rfl := Option.some.inj same
    exact ⟨ds,written,some,List.all_eq_true.mp each,rfl,word⟩
  · rintro ⟨digits,written,some,each,rfl,word⟩
    have all : digits.all Decimal.isDigit = true := List.all_eq_true.mpr each
    rcases written with rfl | plus
    · have plain : '+' ∉ token.toList := fun inside => by simpa [Decimal.isDigit] using each _ inside
      rw [position?_unsigned plain]
      exact if_pos ⟨some,all,word⟩
    · rw [position?_signed plus]
      exact if_pos ⟨some,all,word⟩

theorem ofToken_eq_index_iff {node : Option Json} {token : String} {n : Nat} :
    ofToken node token = .index n ↔
      (∃ items, node = some (.array items)) ∧ Reads token n := by
  rw [← position?_eq_some_iff]
  unfold ofToken
  split
  · next items =>
    cases position? token <;> simp
  · next other =>
    constructor
    · intro same
      cases same
    · rintro ⟨⟨items,rfl⟩,_⟩
      exact absurd rfl (other items)

theorem ofToken_cases (node : Option Json) (token : String) :
    (∃ n, ofToken node token = .index n) ∨ ofToken node token = .key token := by
  unfold ofToken
  split
  · cases position? token with
    | some i => exact .inl ⟨i,rfl⟩
    | none => exact .inr rfl
  · exact .inr rfl

/-- What a token has become at a node it becomes there again. -/
theorem ofToken_again (node : Option Json) (token : String) :
    ofToken node (ofToken node token).shown = ofToken node token := by
  rcases ofToken_cases node token with ⟨n,index⟩ | key
  · obtain ⟨array,_,_,_,_,_,word⟩ := ofToken_eq_index_iff.mp index
    rw [index]
    exact ofToken_eq_index_iff.mpr ⟨array,position?_eq_some_iff.mp (position?_text word)⟩
  · rw [key]
    exact key

end Segment

namespace Pointer

theorem length_typed (node : Option Json) (tokens : List String) :
    (typed node tokens).length = tokens.length := by
  induction tokens generalizing node with
  | nil => rfl
  | cons token rest ih => simp [typed,ih]

/-- A token is typed by the node that the segments before it lead to. -/
theorem typed_getElem? (node : Option Json) (tokens : List String) (i : Nat) :
    (typed node tokens)[i]? = tokens[i]?.map
      (Segment.ofToken (node.bind (resolve? ⟨(typed node tokens).take i⟩))) := by
  induction tokens generalizing node i with
  | nil => rfl
  | cons token rest ih =>
    cases i with
    | zero => cases node <;> rfl
    | succ i =>
      have step (s : Segment) (below : List Segment) :
          resolve? ⟨s :: below⟩ = fun v => (Segment.step? v s).bind (resolve? ⟨below⟩) := by
        funext v
        rw [← List.singleton_append,resolve?_append,resolve?_single]
      simp only [typed,List.getElem?_cons_succ,ih,List.take_succ_cons,Option.bind_assoc,step]

theorem typed_again (node : Option Json) (tokens : List String) :
    typed node ((typed node tokens).map Segment.shown) = typed node tokens := by
  induction tokens generalizing node with
  | nil => rfl
  | cons token rest ih => simp only [typed,List.map_cons,Segment.ofToken_again,ih]

/-- Pointers that lead somewhere in a document are told apart by their texts. -/
theorem text_injective {p q : Pointer} {document v w : Json} (words : p.Words) (words' : q.Words)
    (found : p.resolve? document = some v) (found' : q.resolve? document = some w)
    (same : p.text = q.text) : p = q := by
  have read := parseAgainst?_text words found
  rw [same,parseAgainst?_text words' found'] at read
  exact (Option.some.inj read).symm

/-- Reading a text for a document. The pointers that lead somewhere in it are read back from their
texts, so no two of them have one text. Whatever text is a pointer's, reading it for the document
keeps the number of segments; one is a position exactly if the segments before it lead to an array
and its token reads as that word, else it is the token's name. What is printed of the result is read
as the result. -/
theorem parseAgainst?_typing (document : Json) :
    (∀ (p : Pointer) (v : Json), p.Words → p.resolve? document = some v →
      parseAgainst? p.text document = some p) ∧
    (∀ (p q : Pointer) (v w : Json), p.Words → q.Words → p.resolve? document = some v →
      q.resolve? document = some w → p ≠ q → p.text ≠ q.text) ∧
    ∀ (s : String) (p : Pointer), parse? s = some p → ∃ (tokens : List String) (q : Pointer),
      p = ofKeys tokens ∧ parseAgainst? s document = some q ∧
      q.segments.length = p.segments.length ∧
      (∀ (i : Nat) (token : String), tokens[i]? = some token →
        (∀ n, q.segments[i]? = some (.index n) ↔
          (∃ items, resolve? ⟨q.segments.take i⟩ document = some (.array items)) ∧
          Segment.Reads token n) ∧
        ((∃ n, q.segments[i]? = some (.index n)) ∨ q.segments[i]? = some (.key token))) ∧
      parseAgainst? q.text document = some q := by
  refine ⟨fun p v words found => parseAgainst?_text words found,
    fun p q v w words words' found found' other same =>
      other (text_injective words words' found found' same),fun s p read => ?_⟩
  obtain ⟨tokens,found,rfl⟩ := Option.map_eq_some_iff.mp read
  refine ⟨tokens,⟨typed (some document) tokens⟩,rfl,?_,?_,?_,?_⟩
  · rw [parseAgainst?,found]
    rfl
  · simp [ofKeys,length_typed]
  · intro i token there
    have segment := typed_getElem? (some document) tokens i
    rw [there,Option.map_some,Option.bind_some] at segment
    rw [segment]
    refine ⟨fun n => ?_,?_⟩
    · rw [Option.some.injEq,Segment.ofToken_eq_index_iff]
    · simp only [Option.some.injEq]
      exact Segment.ofToken_cases _ token
  · rw [parseAgainst?,tokens?_text,Option.map_some,typed_again]

/-- A sign and a zero before a position, and a number under a string, which has no positions. -/
theorem parseAgainst?_typing_signed :
    let document : Json := .object [("a",.array [.string "x",.string "y"]),("1",.null)]
    let last := (root.key "a").index 1
    last.resolve? document = some (.string "y") ∧ parseAgainst? "/a/1" document = some last ∧
    (root.key "1").resolve? document = some .null ∧ last.text ≠ (root.key "1").text ∧
    parse? "/a/+01/0" = some (ofKeys ["a","+01","0"]) ∧ Segment.Reads "+01" 1 ∧
    ∃ q, parseAgainst? "/a/+01/0" document = some q ∧ q.segments[1]? = some (.index 1) ∧
      q.segments[2]? = some (.key "0") ∧ parseAgainst? q.text document = some q := by
  intro document last
  have found : last.resolve? document = some (.string "y") := rfl
  have found' : (root.key "1").resolve? document = some .null := by decide +kernel
  have words : last.Words := by
    rintro i (_ | ⟨_,_ | ⟨_,⟨⟩⟩⟩)
    decide +kernel
  have words' : (root.key "1").Words := by rintro i (_ | ⟨_,⟨⟩⟩)
  have other : last ≠ root.key "1" := by decide +kernel
  have text : last.text = "/a/1" := by decide +kernel
  have read : parse? "/a/+01/0" = some (ofKeys ["a","+01","0"]) := by decide +kernel
  have typed : parseAgainst? "/a/+01/0" document =
      some ⟨[.key "a",.index 1,.key "0"]⟩ := by decide +kernel
  obtain ⟨back,apart,typing⟩ := parseAgainst?_typing document
  obtain ⟨tokens,q,same,against,_,each,again⟩ := typing _ _ read
  obtain rfl : ["a","+01","0"] = tokens :=
    List.map_injective_iff.mpr (fun a b key => Segment.key.inj key) (Pointer.mk.inj same)
  obtain rfl := Option.some.inj (typed.symm.trans against)
  have reads : Segment.Reads "+01" 1 := (((each 1 "+01" rfl).1 1).mp rfl).2
  exact ⟨found,text ▸ back last _ words found,found',apart _ _ _ _ words words' found found' other,
    read,reads,_,typed,rfl,rfl,again⟩

end Pointer
end ApiReview
