import ApiReview.Proofs.Book
import ApiReview.Proofs.Reference

/-! Documents whose parts are referred to. The parts of a document that stand together in a group
are found by the references that name them, so that they make up the pages of a book. -/
namespace ApiReview

namespace Pointer

/-- A character that is written in a pointer, and in a fragment, as it is. -/
def isPlain (c : Char) : Bool := c != '~' && c != '/' && Uri.isQueryChar c

def plain (name : String) : Bool := name.toList.all isPlain

theorem chars_plain {name : String} (fine : plain name = true) :
    (Segment.key name).chars = name.toList := by
  have all := List.all_eq_true.mp fine
  rw [Segment.chars]
  generalize name.toList = cs at all
  induction cs with
  | nil => rfl
  | cons c rest ih =>
    have first := all c List.mem_cons_self
    simp only [isPlain,Bool.and_eq_true,bne_iff_ne] at first
    simp [Segment.escapeChar,first.1.1,first.1.2,ih fun d later => all d (List.mem_cons_of_mem c later)]

end Pointer

namespace Schema

/-- The pointer to a part of a group, as a text. -/
def place (group name : String) : String := "/" ++ group ++ "/" ++ name

section
variable {group name : String}

theorem place_eq (plainGroup : Pointer.plain group = true) (plainName : Pointer.plain name = true) :
    (Pointer.ofKeys [group,name]).text = place group name := by
  apply String.toList_inj.mp
  simp [Pointer.text,Pointer.chars,Pointer.ofKeys,Pointer.chars_plain plainGroup,
    Pointer.chars_plain plainName,place]

theorem place_plain (plainGroup : Pointer.plain group = true)
    (plainName : Pointer.plain name = true) :
    ∀ c ∈ (place group name).toList, Uri.isQueryChar c = true := by
  have fine {s : String} (plain : Pointer.plain s = true) (c : Char) (inside : c ∈ s.toList) :
      Uri.isQueryChar c = true := by
    have one := List.all_eq_true.mp plain c inside
    simp only [Pointer.isPlain,Bool.and_eq_true] at one
    exact one.2
  have slash : Uri.isQueryChar '/' = true := by decide
  intro c inside
  simp only [place,String.toList_append,List.mem_append] at inside
  rcases inside with ((front | inGroup) | front) | inName
  · simp_all
  · exact fine plainGroup c inGroup
  · simp_all
  · exact fine plainName c inName

theorem place_inj {other : String} (same : place group name = place group other) : name = other := by
  simpa [place,String.append_left_inj] using same

end

/-- The parts of a document that stand in a group. -/
def parts (document : Json) (group : String) : List (String × Json) :=
  ((document.get? group).bind Json.members?).getD []

/-- The identifier of a part. -/
def partUri (home : Uri) (group name : String) : Uri :=
  { home with fragment := some (place group name) }

/-- A group of parts in a document that is held under its own identifier. -/
structure Group (r : Resources) (home : Uri) (group : String) (parts : List (String × Json)) :
    Prop where
  whole : home.fragment = none
  inside : ∃ ms, r.documents.lookup home.text = some (.object ms) ∧
    baseWithin home ms = .ok home ∧ Json.lookup group ms = some (.object parts)
  within : baseWithin home parts = .ok home
  plainGroup : Pointer.plain group = true
  plainNames : ∀ m ∈ parts, Pointer.plain m.1 = true
  apart : (parts.map Prod.fst).Nodup

namespace Group

/-- Whether the parts of a document in a group can be found, where it is held under its own
identifier. -/
def check (home : Uri) (document : Json) (group : String) : Bool :=
  let inner := parts document group
  !inner.isEmpty && decide ((baseWithin home (document.members?.getD [])).toOption = some home) &&
    decide ((baseWithin home inner).toOption = some home) && Pointer.plain group &&
    inner.all (Pointer.plain ·.1) && decide (inner.map Prod.fst).Nodup

theorem of_check {r : Resources} {home : Uri} {document : Json} {group : String}
    (held : r.documents.lookup home.text = some document) (whole : home.fragment = none)
    (checked : check home document group = true) : Group r home group (parts document group) := by
  simp only [check,Bool.and_eq_true,Bool.not_eq_true',decide_eq_true_eq,Success.toOption_iff,
    List.all_eq_true] at checked
  obtain ⟨⟨⟨⟨⟨some,outside⟩,within⟩,plainGroup⟩,plainNames⟩,apart⟩ := checked
  refine ⟨whole,?_,within,plainGroup,plainNames,apart⟩
  cases document with
  | object ms =>
    cases found : (Json.lookup group ms).bind Json.members? with
    | none => simp [parts,Json.get?,found] at some
    | some inner =>
      obtain ⟨v,one,object⟩ := Option.bind_eq_some_iff.mp found
      obtain rfl := Json.members?_eq_some_iff.mp object
      have same : parts (.object ms) group = inner := by simp [parts,Json.get?,one,object]
      exact ⟨ms,held,outside,same.symm ▸ one⟩
  | _ => simp [parts,Json.get?] at some

variable {r : Resources} {home base : Uri} {group name : String}
    {parts : List (String × Json)} {v : Json}

/-- A part is found under its identifier. -/
theorem target (g : Group r home group parts) (member : (name,v) ∈ parts) :
    r.target (partUri home group name) = .ok ⟨home,v⟩ := by
  obtain ⟨ms,held,outside,one⟩ := g.inside
  have name_plain := g.plainNames _ member
  have same := place_eq g.plainGroup name_plain
  have document : (partUri home group name).withoutFragment = home := by
    obtain ⟨scheme,authority,path,query,fragment⟩ := home
    obtain rfl : fragment = none := g.whole
    rfl
  have escapes : '%' ∉ (Pointer.ofKeys [group,name]).text.toList := by
    rw [same]
    intro inside
    have wrong := place_plain g.plainGroup name_plain _ inside
    exact absurd wrong (by decide)
  have fragment : (partUri home group name).fragment = some (Pointer.ofKeys [group,name]).text :=
    congrArg some same.symm
  have found : r.documents.lookup (partUri home group name).withoutFragment.text =
      some (.object ms) := document.symm ▸ held
  have led : walk (Pointer.ofKeys [group,name]).text [group,name] home (.object ms) =
      .ok (home,v) := walk_two outside one g.within (Json.lookup_of_mem g.apart member)
  rw [← document] at led
  have names : [group,name] ≠ [] := List.cons_ne_nil _ _
  have reached := Resources.target_pointer fragment names escapes found led
  exact document ▸ reached

/-- The pages for the parts of a group, with a way to refer to its document and short names. -/
def pages (home base : Uri) (group : String) (front : String) (short : String → String)
    (parts : List (String × Json)) : List Page :=
  parts.map fun (name,v) => ⟨base,front ++ "#" ++ place group name,short name,home,v⟩

theorem pages_right (g : Group r home group parts) {front : String} {short : String → String}
    {long : String → Uri} (resolved : resolve base front = .ok home) (absent : '#' ∉ front.toList)
    (named : ∀ m ∈ parts, long (short m.1) = partUri home group m.1) :
    ∀ p ∈ pages home base group front short parts, p.Right r long := by
  intro p listed
  obtain ⟨m,member,rfl⟩ := List.mem_map.mp listed
  have fine := place_plain g.plainGroup (g.plainNames m member)
  have part : resolve base (front ++ "#" ++ place group m.1) = .ok (partUri home group m.1) :=
    resolve_append resolved absent fine
  have name := named m member
  exact ⟨name ▸ part,name ▸ g.target member⟩

end Group
end Schema
end ApiReview
