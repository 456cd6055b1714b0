import Mathlib.Data.List.Basic
import ApiReview.Proofs.Pointer

/-! Texts of pointers and the segments that they stand for. Names are read back from the text that
they are printed as, and a text is printed back if each of its tildes begins an escape. Whatever the
text, what is printed of it stands for the same segments. -/
namespace ApiReview

/-- Every tilde is followed by one of the digits that make it an escape. -/
def Escaped (cs : List Char) : Prop := ∀ before after, cs = before ++ '~' :: after →
  ∃ d rest, after = d :: rest ∧ (d = '0' ∨ d = '1')

namespace Escaped
variable {a b : List Char}

theorem of_absent (absent : '~' ∉ a) : Escaped a := by
  rintro before after rfl
  exact absurd (List.mem_append_right before List.mem_cons_self) absent

theorem append (one : Escaped a) (two : Escaped b) : Escaped (a ++ b) := by
  intro before after same
  rcases List.append_eq_append_iff.mp same with ⟨more,_,tail⟩ | ⟨more,front,tail⟩
  · exact two more after tail
  · cases more with
    | nil => exact two [] after tail.symm
    | cons c more =>
      obtain ⟨rfl,rfl⟩ := List.cons.inj tail
      obtain ⟨d,rest,rfl,digit⟩ := one before more front
      exact ⟨d,rest ++ b,rfl,digit⟩

theorem flatMap {α : Type} {f : α → List Char} (each : ∀ x, Escaped (f x)) (list : List α) :
    Escaped (list.flatMap f) := by
  induction list with
  | nil => exact of_absent List.not_mem_nil
  | cons x rest ih => exact (each x).append ih

theorem behind (whole : Escaped (a ++ b)) : Escaped b := by
  rintro before after rfl
  exact whole (a ++ before) after (by simp)

/-- A part in front of a slash, or of nothing, is escaped by itself. -/
theorem front (whole : Escaped (a ++ b)) (mark : ∀ d ∈ b.head?, d = '/') : Escaped a := by
  rintro before after rfl
  obtain ⟨d,rest,same,digit⟩ := whole before (after ++ b) (by simp)
  cases after with
  | cons c more =>
    obtain ⟨rfl,_⟩ := List.cons.inj same
    exact ⟨c,more,rfl,digit⟩
  | nil =>
    have slash : d = '/' := mark d (by rw [← List.nil_append b,same]; rfl)
    rcases digit with rfl | rfl <;> simp at slash

end Escaped

namespace Segment

theorem escaped_chars (s : Segment) : Escaped s.chars := by
  cases s with
  | key name =>
    refine .flatMap (fun c => ?_) name.toList
    unfold escapeChar
    split
    · intro before after same
      cases before with
      | nil => exact ⟨'0',[],by simpa using same.symm,.inl rfl⟩
      | cons d before => simp [List.cons_eq_append_iff] at same
    · split
      · intro before after same
        cases before with
        | nil => exact ⟨'1',[],by simpa using same.symm,.inr rfl⟩
        | cons d before => simp [List.cons_eq_append_iff] at same
      · next plain _ => exact .of_absent (by simpa using Ne.symm plain)
  | index i => exact .of_absent (not_mem_digits (by decide))

/-- What is escaped and has no slashes is what some name is written as. -/
theorem exists_name {cs : List Char} (whole : '/' ∉ cs) (escaped : Escaped cs) :
    ∃ name : List Char, cs = name.flatMap escapeChar := by
  match cs with
  | [] => exact ⟨[],rfl⟩
  | c :: rest =>
    obtain ⟨other,behind⟩ := not_or.mp (mt List.mem_cons.mpr whole)
    have later : Escaped rest := escaped.behind (a := [c])
    by_cases tilde : c = '~'
    · subst c
      obtain ⟨d,more,rfl,digit⟩ := escaped [] rest rfl
      have plain : '/' ∉ more := fun inside => behind (List.mem_cons_of_mem d inside)
      obtain ⟨name,rfl⟩ := exists_name plain (Escaped.behind (a := [d]) (b := more) later)
      rcases digit with rfl | rfl
      · exact ⟨'~' :: name,rfl⟩
      · exact ⟨'/' :: name,rfl⟩
    · obtain ⟨name,rfl⟩ := exists_name behind later
      exact ⟨c :: name,by simp [escapeChar,tilde,Ne.symm other]⟩
termination_by cs.length

/-- Escapes are written again as they were read. -/
theorem chars_unescape {cs : List Char} (whole : '/' ∉ cs) (escaped : Escaped cs) :
    (key (String.ofList (unescape cs))).chars = cs := by
  obtain ⟨name,rfl⟩ := exists_name whole escaped
  simp [chars,unescape,replaceEscape_slash,replaceEscape_tilde]

/-- A position becomes the name that has its digits. -/
def named : Segment → Segment
  | .key name => .key name
  | .index i => .key (Decimal.text i)

theorem named_eq (s : Segment) : s.named = .key s.shown := by cases s <;> rfl

end Segment

namespace Pointer

/-- The pointer with names in place of positions. -/
def named (p : Pointer) : Pointer := ⟨p.segments.map Segment.named⟩

theorem escaped_chars (p : Pointer) : Escaped p.chars := by
  refine .flatMap (fun s => ?_) p.segments
  exact Escaped.append (a := ['/']) (.of_absent (by simp)) s.escaped_chars

/-- With a slash in front of each piece the text is whole again. -/
theorem splitOn_join (cs : List Char) : (cs.splitOn '/').flatMap ('/' :: ·) = '/' :: cs := by
  induction cs with
  | nil => rfl
  | cons c cs ih =>
    rw [List.splitOn_cons_eq_if_modifyHead]
    split
    · next slash => rw [List.flatMap_cons,ih,beq_iff_eq.mp slash]; rfl
    · cases pieces : cs.splitOn '/' with
      | nil => exact absurd pieces (List.splitOn_ne_nil '/' cs)
      | cons piece pieces' =>
        rw [pieces,List.flatMap_cons] at ih
        simpa using ih

theorem slash_not_mem_pieces {cs piece : List Char} (member : piece ∈ cs.splitOn '/') :
    '/' ∉ piece := by
  induction cs generalizing piece with
  | nil =>
    obtain rfl := List.mem_singleton.mp member
    exact List.not_mem_nil
  | cons c cs ih =>
    rw [List.splitOn_cons_eq_if_modifyHead] at member
    split at member
    · rcases List.mem_cons.mp member with rfl | later
      · exact List.not_mem_nil
      · exact ih later
    · next other =>
      cases pieces : cs.splitOn '/' with
      | nil => exact absurd pieces (List.splitOn_ne_nil '/' cs)
      | cons first rest =>
        rw [pieces,List.modifyHead_cons] at member
        rcases List.mem_cons.mp member with rfl | later
        · have inside := ih (pieces ▸ List.mem_cons_self)
          simp only [beq_iff_eq] at other
          simpa using ⟨Ne.symm other,inside⟩
        · exact ih (pieces ▸ List.mem_cons_of_mem first later)

/-- The pieces between slashes are escaped if the whole text is. -/
theorem escaped_pieces {pieces : List (List Char)} (whole : Escaped (pieces.flatMap ('/' :: ·))) :
    ∀ piece ∈ pieces, Escaped piece := by
  induction pieces with
  | nil => simp
  | cons piece rest ih =>
    rw [List.flatMap_cons] at whole
    refine List.forall_mem_cons.mpr ⟨?_,ih whole.behind⟩
    refine (whole.front fun d first => ?_).behind (a := ['/'])
    cases rest with
    | nil => cases first
    | cons next rest => simpa using first.symm

theorem parse?_text (p : Pointer) : parse? p.text = some p.named := by
  simp [parse?,tokens?_text,named,ofKeys,Segment.named_eq,Function.comp_def]

/-- A text that can be read is empty, or the pieces behind its slashes are what its segments are
read from. -/
theorem parse?_cases {s : String} {p : Pointer} (read : parse? s = some p) :
    s = "" ∧ p = root ∨ ∃ rest, s.toList = '/' :: rest ∧
      p.segments = (rest.splitOn '/').map fun raw => .key (String.ofList (Segment.unescape raw)) := by
  obtain ⟨tokens,found,rfl⟩ := Option.map_eq_some_iff.mp read
  unfold tokens? at found
  split at found
  · next none =>
    cases found
    exact .inl ⟨String.toList_eq_nil_iff.mp none,rfl⟩
  · next rest slash =>
    cases found
    exact .inr ⟨rest,slash,by simp [ofKeys]⟩
  · cases found

theorem parse?_isSome_iff (s : String) :
    (parse? s).isSome = true ↔ s = "" ∨ ∃ rest, s.toList = '/' :: rest := by
  constructor
  · intro some
    obtain ⟨p,read⟩ := Option.isSome_iff_exists.mp some
    exact (parse?_cases read).imp (·.1) fun ⟨rest,slash,_⟩ => ⟨rest,slash⟩
  · rintro (rfl | ⟨rest,slash⟩)
    · rfl
    · simp [parse?,tokens?,slash]

theorem text_eq_iff {s : String} {p : Pointer} (read : parse? s = some p) :
    p.text = s ↔ Escaped s.toList := by
  constructor
  · rintro rfl
    simpa [text] using p.escaped_chars
  · intro escaped
    rcases parse?_cases read with ⟨rfl,rfl⟩ | ⟨rest,slash,segments⟩
    · rfl
    · have each := escaped_pieces (splitOn_join rest ▸ slash ▸ escaped)
      have printed : p.chars = (rest.splitOn '/').flatMap ('/' :: ·) := by
        rw [chars,segments,List.flatMap_map]
        refine List.flatMap_congr fun raw inside => congrArg ('/' :: ·) ?_
        exact Segment.chars_unescape (slash_not_mem_pieces inside) (each raw inside)
      rw [text,printed,splitOn_join,← slash,String.ofList_toList]

theorem named_of_parse {s : String} {p : Pointer} (read : parse? s = some p) : p.named = p := by
  obtain ⟨tokens,_,rfl⟩ := Option.map_eq_some_iff.mp read
  simp [named,ofKeys,Segment.named]

/-- Text and segments are inverse to each other. From its text a pointer is read back with names in
place of positions, so one of names alone as it is. Texts are read if they are empty or begin with
a slash; then they are printed back exactly if they are escaped, and what is printed is read as the
same pointer in any case. -/
theorem text_inverse :
    (∀ p : Pointer, parse? p.text = some p.named) ∧
    (∀ names : List String, parse? (ofKeys names).text = some (ofKeys names)) ∧
    ∀ s : String, ((parse? s).isSome = true ↔ s = "" ∨ ∃ rest, s.toList = '/' :: rest) ∧
      ∀ p, parse? s = some p → (p.text = s ↔ Escaped s.toList) ∧ parse? p.text = some p := by
  refine ⟨parse?_text,fun names => ?_,fun s => ⟨parse?_isSome_iff s,fun p read => ?_⟩⟩
  · have same : (ofKeys names).named = ofKeys names := by simp [named,ofKeys,Segment.named]
    rw [parse?_text,same]
  · have again := parse?_text p
    rw [named_of_parse read] at again
    exact ⟨text_eq_iff read,again⟩

/-- An empty token, escapes one behind the other, and a tilde that begins none. -/
theorem text_inverse_tildes :
    parse? "//~01~10" = some (ofKeys ["","~1/0"]) ∧ (ofKeys ["","~1/0"]).text = "//~01~10" ∧
    Escaped "//~01~10".toList ∧
    parse? "/~~1" = some (ofKeys ["~/"]) ∧ (ofKeys ["~/"]).text ≠ "/~~1" ∧
    ¬ Escaped "/~~1".toList ∧ parse? (ofKeys ["~/"]).text = some (ofKeys ["~/"]) := by
  have read : parse? "//~01~10" = some (ofKeys ["","~1/0"]) := by decide +kernel
  have read' : parse? "/~~1" = some (ofKeys ["~/"]) := by decide +kernel
  have printed : (ofKeys ["","~1/0"]).text = "//~01~10" := by decide +kernel
  have printed' : (ofKeys ["~/"]).text ≠ "/~~1" := by decide +kernel
  obtain ⟨back,_⟩ := (text_inverse.2.2 _).2 _ read
  obtain ⟨back',again⟩ := (text_inverse.2.2 _).2 _ read'
  exact ⟨read,printed,back.mp printed,read',printed',mt back'.mpr printed',again⟩

end Pointer
end ApiReview
