import ApiReview.Schema.Resource
import ApiReview.Proofs.Pointer
import ApiReview.Proofs.Success
import Mathlib.Data.List.TakeDrop

/-! References inside a document. One that is a fragment alone leaves the base as it is, and one
whose fragment is the text of a pointer leads along that pointer. -/
namespace ApiReview

namespace Uri

theorem faultIn_none {allowed : Char → Bool} (percent : allowed '%' = false) (i : Nat)
    {cs : List Char} (all : ∀ c ∈ cs, allowed c = true) : faultIn allowed i cs = none := by
  induction cs generalizing i with
  | nil => rfl
  | cons c rest ih =>
    have fine := all c List.mem_cons_self
    have other : c ≠ '%' := by
      rintro rfl
      simp [percent] at fine
    have later := ih (i + 1) fun d member => all d (List.mem_cons_of_mem c member)
    unfold faultIn
    split
    · simp_all
    · next same =>
      cases same
      exact absurd rfl other
    · next same =>
      cases same
      exact absurd rfl other
    · next same =>
      cases same
      rw [if_pos fine,later]

theorem span_append {p : Char → Bool} {mark : Char} (stop : p mark = false) (cs rest : List Char) :
    (cs ++ mark :: rest).span p = ((cs.span p).1,(cs.span p).2 ++ mark :: rest) := by
  simp only [List.span_eq_takeWhile_dropWhile]
  induction cs with
  | nil => simp [stop]
  | cons c cs ih =>
    cases fits : p c with
    | false => simp [fits]
    | true => simpa [fits] using ih

theorem span_join (p : Char → Bool) (cs : List Char) : (cs.span p).1 ++ (cs.span p).2 = cs := by
  simp [List.span_eq_takeWhile_dropWhile]

theorem splitScheme_append (cs rest : List Char) : splitScheme (cs ++ '#' :: rest) =
    ((splitScheme cs).1,(splitScheme cs).2 ++ '#' :: rest) := by
  have stop : isSchemeChar '#' = false := by decide
  have whole := span_join isSchemeChar cs
  rw [splitScheme,splitScheme,span_append stop]
  generalize cs.span isSchemeChar = halves at whole ⊢
  obtain ⟨_ | ⟨c,name⟩,_ | ⟨d,later⟩⟩ := halves
  · rfl
  · rfl
  · rfl
  · by_cases colon : d = ':'
    · subst colon
      by_cases letter : c.isAlpha = true <;> simp [letter]
    · simp [colon]

theorem splitScheme_suffix (cs : List Char) : (splitScheme cs).2 <:+ cs := by
  have whole := span_join isSchemeChar cs
  rw [splitScheme]
  split
  · next c name rest same =>
    rw [same] at whole
    split
    · exact ⟨c :: name ++ [':'],by simpa using whole⟩
    · exact List.suffix_refl cs
  · exact List.suffix_refl cs

theorem span_absent {mark : Char} {cs : List Char} (absent : mark ∉ cs) :
    cs.span (· ≠ mark) = (cs,[]) := by
  rw [List.span_eq_takeWhile_dropWhile]
  induction cs with
  | nil => rfl
  | cons c rest ih =>
    obtain ⟨other,absent⟩ := not_or.mp (mt List.mem_cons.mpr absent)
    have both := Prod.mk.inj (ih absent)
    simpa [Ne.symm other] using both

theorem splitAt_absent {mark : Char} {cs : List Char} (absent : mark ∉ cs) :
    splitAt mark cs = (cs,none) := by
  rw [splitAt,span_absent absent]

theorem splitAt_append {mark : Char} {cs : List Char} (absent : mark ∉ cs) (rest : List Char) :
    splitAt mark (cs ++ mark :: rest) = (cs,some rest) := by
  rw [splitAt,span_append (by simp),span_absent absent]
  rfl

/-- A fragment behind a text without one belongs to what that text means. -/
theorem parse_append {front fragment : String} {u : Uri} (parsed : parse front = .ok u)
    (absent : '#' ∉ front.toList) (plain : ∀ c ∈ fragment.toList, isQueryChar c = true) :
    parse (front ++ "#" ++ fragment) = .ok { u with fragment := some fragment } := by
  have percent : isQueryChar '%' = false := by decide
  have chars : (front ++ "#" ++ fragment).toList = front.toList ++ '#' :: fragment.toList := by
    simp [String.toList_append]
  have later : '#' ∉ (splitScheme front.toList).2 :=
    fun inside => absent ((splitScheme_suffix _).subset inside)
  simp only [parse,splitAt_absent later,Option.bind_none] at parsed
  simp only [parse,chars,splitScheme_append,splitAt_append later,Option.bind_some,
    faultIn_none percent _ plain]
  generalize splitAt '?' (splitScheme front.toList).2 = parts at parsed ⊢
  split at parsed
  · cases parsed
  · next fine =>
    cases parsed
    simp

/-- The fragment of a reference does not take part in its resolution. -/
theorem resolve_fragment (base reference : Uri) (fragment : Option String) :
    base.resolve { reference with fragment := fragment } =
      { base.resolve reference with fragment := fragment } := by
  unfold resolve
  repeat' split
  all_goals rfl

end Uri

/-! The bytes of a text, taken out one by one, are its bytes. -/

theorem byteList_loop (bytes : ByteArray) (i : Nat) (read : List UInt8) :
    ByteArray.toList.loop bytes i read = read.reverse ++ bytes.data.toList.drop i := by
  induction i,read using ByteArray.toList.loop.induct bytes with
  | case1 i read inside ih =>
    have inside' : i < bytes.data.toList.length := inside
    rw [ByteArray.toList.loop,if_pos inside,ih,List.drop_eq_getElem_cons inside']
    have byte : bytes.get! i = bytes.data.toList[i] := by
      simp [ByteArray.get!,getElem!_pos bytes.data i inside]
    simp [byte]
  | case2 i read outside =>
    have past : bytes.data.toList.length ≤ i := Nat.le_of_not_lt outside
    rw [ByteArray.toList.loop,if_neg outside,List.drop_eq_nil_of_le past,List.append_nil]

theorem byteList_eq (bytes : ByteArray) : bytes.toList = bytes.data.toList := by
  rw [ByteArray.toList,byteList_loop]
  rfl

namespace Schema

theorem percentBytes_plain {cs : List Char} (plain : '%' ∉ cs) :
    percentBytes cs = cs.flatMap String.utf8EncodeChar := by
  induction cs with
  | nil => rfl
  | cons c rest ih =>
    obtain ⟨other,plain⟩ := not_or.mp (mt List.mem_cons.mpr plain)
    unfold percentBytes
    split
    · next same =>
      cases same
      exact absurd rfl other
    · next same =>
      cases same
      simp [ih plain,byteList_eq,List.utf8Encode_singleton]
    · next same => cases same

/-- Without percent signs there is nothing to decode. -/
theorem percentDecode?_plain {text : String} (plain : '%' ∉ text.toList) :
    percentDecode? text = some text := by
  have bytes : (⟨(percentBytes text.toList).toArray⟩ : ByteArray) = text.toByteArray := by
    rw [percentBytes_plain plain,← String.utf8Encode_toList]
    refine ByteArray.ext ?_
    apply Array.toList_inj.mp
    simp [List.utf8Encode]
  rw [percentDecode?,bytes,String.fromUTF8?,dif_pos text.isValidUTF8]
  rfl

/-- A fragment behind a reference without one belongs to what that reference means. -/
theorem resolve_append {base uri : Uri} {front fragment : String}
    (resolved : resolve base front = .ok uri) (absent : '#' ∉ front.toList)
    (plain : ∀ c ∈ fragment.toList, Uri.isQueryChar c = true) :
    resolve base (front ++ "#" ++ fragment) = .ok { uri with fragment := some fragment } := by
  obtain ⟨reference,parsed,rfl⟩ := Success.map_iff.mp resolved
  rw [parseReference,Success.mapError_iff] at parsed
  rw [resolve,parseReference,Uri.parse_append parsed absent plain]
  exact congrArg (fun u => Except.ok (Uri.lowered u)) (Uri.resolve_fragment base reference _)

section
variable {names : List String}

theorem follow_pointer (plain : '%' ∉ (Pointer.ofKeys names).text.toList) (base : Uri)
    (document : Json) : follow (Pointer.ofKeys names).text base document =
      walk (Pointer.ofKeys names).text names base document := by
  have tokens : Pointer.tokens? (Pointer.ofKeys names).text = some names := by
    rw [Pointer.tokens?_text]
    simp [Pointer.ofKeys,Function.comp_def,Segment.shown]
  simp only [follow,percentDecode?_plain plain,tokens,Option.getD_some]

/-- An identifier whose fragment is the text of a pointer leads along that pointer. -/
theorem Resources.target_pointer {r : Resources} {uri here : Uri} {home schema : Json}
    (fragment : uri.fragment = some (Pointer.ofKeys names).text) (inside : names ≠ [])
    (plain : '%' ∉ (Pointer.ofKeys names).text.toList)
    (held : r.documents.lookup uri.withoutFragment.text = some home)
    (led : walk (Pointer.ofKeys names).text names uri.withoutFragment home =
      .ok (here,schema)) : r.target uri = .ok ⟨here,schema⟩ := by
  have slash : (Pointer.ofKeys names).text.startsWith "/" = true := by
    cases names with
    | nil => exact absurd rfl inside
    | cons name rest => simp [String.startsWith_string_iff,Pointer.text,Pointer.chars,Pointer.ofKeys]
  have known : r.document uri.withoutFragment = .ok home := by
    rw [Resources.document,held]
    rfl
  have place : follow (Pointer.ofKeys names).text uri.withoutFragment home = .ok (here,schema) :=
    (follow_pointer plain _ _).trans led
  simp only [target,fragment,Option.getD_some,Bind.bind,Except.bind,known,slash,if_true,place]
  rfl

end

/-- Two names below a document that declares no identifier on the way. -/
theorem walk_two {pointer a b : String} {home : Uri} {ms inner : List (String × Json)} {v : Json}
    (outside : baseWithin home ms = .ok home) (one : Json.lookup a ms = some (.object inner))
    (within : baseWithin home inner = .ok home) (two : Json.lookup b inner = some v) :
    walk pointer [a,b] home (.object ms) = .ok (home,v) := by
  simp only [walk,one,two,outside,within,Bind.bind,Except.bind]
  rfl

end Schema
end ApiReview
