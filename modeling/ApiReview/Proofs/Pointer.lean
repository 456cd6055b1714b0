import ApiReview.Pointer
import ApiReview.Proofs.Tree

/-! Pointers and the trees they lead into. The text of a pointer does not say which of its
segments are positions; walking the tree along restores that for every pointer that leads
somewhere. -/
namespace ApiReview

namespace Segment

/-- A name steps into an object, a position into an array. -/
def Enters : Segment → Json → Json → Prop
  | .key name, node, child => ∃ ms, node = .object ms ∧ Json.lookup name ms = some child
  | .index i, node, child => ∃ items, node = .array items ∧ items[i]? = some child

theorem step?_eq_some_iff {s : Segment} {node child : Json} :
    step? node s = some child ↔ s.Enters node child := by
  cases s <;> cases node <;> simp [step?,Enters]

end Segment

/-- The nodes from one down to another, one segment a step. -/
inductive Walk : Json → List Segment → Json → Prop where
  | here {v : Json} : Walk v [] v
  | step {v w u : Json} {s : Segment} {rest : List Segment} :
    s.Enters v w → Walk w rest u → Walk v (s :: rest) u

namespace Json

mutual

/-- Positions in the arrays are words of 64 bits, as in any memory. -/
def Addressable : Json → Prop
  | .array items => items.length ≤ twoTo 64 ∧ AddressableItems items
  | .object members => AddressableMembers members
  | _ => True

def AddressableItems : List Json → Prop
  | [] => True
  | v :: rest => Addressable v ∧ AddressableItems rest

def AddressableMembers : List (String × Json) → Prop
  | [] => True
  | (_, v) :: rest => Addressable v ∧ AddressableMembers rest

end

theorem addressableItems_iff {items : List Json} :
    AddressableItems items ↔ ∀ v ∈ items, v.Addressable := by
  induction items with
  | nil => simp [AddressableItems]
  | cons v rest ih => simp [AddressableItems,ih]

theorem addressableMembers_iff {ms : List (String × Json)} :
    AddressableMembers ms ↔ ∀ m ∈ ms, m.2.Addressable := by
  induction ms with
  | nil => simp [AddressableMembers]
  | cons m rest ih => obtain ⟨k,v⟩ := m; simp [AddressableMembers,ih]

theorem Addressable.length_le {v : Json} (fits : v.Addressable) (items : List Json)
    (array : v = .array items) : items.length ≤ twoTo 64 := by
  subst array
  exact fits.1

theorem Addressable.enters {v child : Json} {s : Segment} (fits : v.Addressable)
    (enters : s.Enters v child) : child.Addressable := by
  cases s with
  | key name =>
    obtain ⟨ms,rfl,member⟩ := enters
    exact addressableMembers_iff.mp fits _ (mem_of_lookup member)
  | index i =>
    obtain ⟨items,rfl,item⟩ := enters
    exact addressableItems_iff.mp fits.2 _ (List.mem_of_getElem? item)

theorem Distinct.enters {v child : Json} {s : Segment} (distinct : v.Distinct)
    (enters : s.Enters v child) : child.Distinct := by
  cases s with
  | key name =>
    obtain ⟨ms,rfl,member⟩ := enters
    exact distinctMembers_iff.mp distinct.2 _ (mem_of_lookup member)
  | index i =>
    obtain ⟨items,rfl,item⟩ := enters
    exact distinctItems_iff.mp distinct _ (List.mem_of_getElem? item)

theorem Distinct.walk {v node : Json} {segments : List Segment} (distinct : v.Distinct)
    (walk : Walk v segments node) : node.Distinct := by
  induction walk with
  | here => exact distinct
  | step enters _ ih => exact ih (distinct.enters enters)

end Json

namespace Pointer

@[simp] theorem segments_join (p : Pointer) (s : Segment) :
    (p.join s).segments = p.segments ++ [s] := rfl

theorem key_injective {p : Pointer} {a b : String} (same : p.key a = p.key b) : a = b := by
  simpa [key,join] using same

@[simp] theorem resolve?_root (root : Json) : Pointer.root.resolve? root = some root := rfl

theorem resolve?_append (before after : List Segment) (root : Json) :
    resolve? ⟨before ++ after⟩ root = (resolve? ⟨before⟩ root).bind (resolve? ⟨after⟩) := by
  simp only [resolve?,List.foldlM_append]
  rfl

theorem resolve?_single (s : Segment) (root : Json) :
    resolve? ⟨[s]⟩ root = Segment.step? root s := by simp [resolve?]

theorem resolve?_join (p : Pointer) (s : Segment) (root : Json) :
    (p.join s).resolve? root = (p.resolve? root).bind (Segment.step? · s) := by
  rw [join,resolve?_append,funext (resolve?_single s)]

theorem resolve?_key {p : Pointer} {root v : Json} {ms : List (String × Json)} {name : String}
    (object : p.resolve? root = some (.object ms)) (member : Json.lookup name ms = some v) :
    (p.key name).resolve? root = some v := by
  simp [key,resolve?_join,object,Segment.step?,member]

theorem resolve?_index {p : Pointer} {root v : Json} {items : List Json} {i : Nat}
    (array : p.resolve? root = some (.array items)) (item : items[i]? = some v) :
    (p.index i).resolve? root = some v := by
  simp [index,resolve?_join,array,Segment.step?,item]

theorem walk_iff {segments : List Segment} {root node : Json} :
    resolve? ⟨segments⟩ root = some node ↔ Walk root segments node := by
  induction segments generalizing root with
  | nil =>
    constructor
    · intro found
      cases found
      exact .here
    · rintro ⟨⟩
      rfl
  | cons s rest ih =>
    have split := resolve?_append [s] rest root
    rw [List.singleton_append,resolve?_single] at split
    rw [split,Option.bind_eq_some_iff]
    constructor
    · rintro ⟨child,enters,below⟩
      exact .step (Segment.step?_eq_some_iff.mp enters) (ih.mp below)
    · rintro (_ | ⟨enters,below⟩)
      exact ⟨_,Segment.step?_eq_some_iff.mpr enters,ih.mpr below⟩

end Pointer

/-! Text of single segments. Slashes are put back before tildes, so a tilde that was escaped
is never taken for the start of an escaped slash. -/
namespace Segment

/-- A character as it stands once the slashes are put back. -/
def keepSlash (c : Char) : List Char := if c = '~' then ['~','0'] else [c]

theorem replaceEscape_slash (cs : List Char) :
    replaceEscape '1' '/' (cs.flatMap escapeChar) = cs.flatMap keepSlash := by
  induction cs with
  | nil => rfl
  | cons c cs ih =>
    by_cases tilde : c = '~'
    · subst c
      -- The digit after the tilde is a zero; what follows it cannot make it a slash.
      cases more : cs.flatMap escapeChar with
      | nil => simp [escapeChar,keepSlash,replaceEscape,more,← ih]
      | cons d ds => simp [escapeChar,keepSlash,replaceEscape,more,← ih]
    · by_cases slash : c = '/'
      · subst c
        simp [escapeChar,keepSlash,replaceEscape,ih]
      · have plain : ∀ tail, replaceEscape '1' '/' (c :: tail) = c :: replaceEscape '1' '/' tail := by
          intro tail
          cases tail <;> simp [replaceEscape,tilde]
        simp [escapeChar,keepSlash,tilde,slash,plain,ih]

theorem replaceEscape_tilde (cs : List Char) :
    replaceEscape '0' '~' (cs.flatMap keepSlash) = cs := by
  induction cs with
  | nil => rfl
  | cons c cs ih =>
    by_cases tilde : c = '~'
    · subst c
      simp [keepSlash,replaceEscape,ih]
    · have plain : ∀ tail, replaceEscape '0' '~' (c :: tail) = c :: replaceEscape '0' '~' tail := by
        intro tail
        cases tail <;> simp [replaceEscape,tilde]
      simp [keepSlash,tilde,plain,ih]

theorem replaceEscape_absent {digit into : Char} {cs : List Char} (absent : '~' ∉ cs) :
    replaceEscape digit into cs = cs := by
  induction cs with
  | nil => rfl
  | cons c cs ih =>
    obtain ⟨other,absent⟩ := not_or.mp (mt List.mem_cons.mpr absent)
    cases cs with
    | nil => rfl
    | cons d ds => simp [replaceEscape,Ne.symm other,ih absent]

theorem not_mem_digits {c : Char} {n : Nat} (other : Decimal.isDigit c = false) :
    c ∉ Decimal.digits n := by
  intro member
  simp [Decimal.isDigit_of_mem_digits member] at other

theorem digits_ne_nil (n : Nat) : Decimal.digits n ≠ [] := by
  rw [Decimal.digits]
  split <;> simp

theorem position?_unsigned {token : String} (plain : '+' ∉ token.toList) :
    position? token =
      if token.toList ≠ [] ∧ token.toList.all Decimal.isDigit ∧
          Decimal.value token.toList < twoTo 64
      then some (Decimal.value token.toList) else none := by
  cases shape : token.toList with
  | nil => simp [position?,shape]
  | cons c cs =>
    have other : c ≠ '+' := by
      rintro rfl
      simp [shape] at plain
    simp only [position?,shape]
    split
    · next rest same => exact absurd (List.cons.inj same).1 other
    · rfl

/-- A position below the limit is read back from its digits. -/
theorem position?_text {i : Nat} (bound : i < twoTo 64) : position? (Decimal.text i) = some i := by
  have chars : (Decimal.text i).toList = Decimal.digits i := String.toList_ofList
  have plain : '+' ∉ (Decimal.text i).toList := chars ▸ not_mem_digits (by decide)
  have digits : (Decimal.digits i).all Decimal.isDigit = true :=
    List.all_eq_true.mpr fun c member => Decimal.isDigit_of_mem_digits member
  rw [position?_unsigned plain,chars,Decimal.value_digits]
  exact if_pos ⟨digits_ne_nil i,digits,bound⟩

/-- Unescaping the text of a segment gives what it shows. -/
theorem unescape_chars (s : Segment) : String.ofList (unescape s.chars) = s.shown := by
  cases s with
  | key name => simp [chars,unescape,replaceEscape_slash,replaceEscape_tilde,shown]
  | index i =>
    have absent : '~' ∉ Decimal.digits i := not_mem_digits (by decide)
    simp [chars,unescape,replaceEscape_absent absent,shown,Decimal.text]

theorem slash_not_mem_chars (s : Segment) : '/' ∉ s.chars := by
  cases s with
  | key name =>
    intro member
    obtain ⟨c,_,member⟩ := List.mem_flatMap.mp member
    unfold escapeChar at member
    split at member
    · simp at member
    · split at member
      · simp at member
      · next plain => exact plain (List.mem_singleton.mp member).symm
  | index i => exact not_mem_digits (by decide)

theorem ofToken_shown {s : Segment} {node child : Json} (enters : s.Enters node child)
    (word : ∀ i, s = .index i → i < twoTo 64) : ofToken (some node) s.shown = s := by
  cases s with
  | key name =>
    obtain ⟨ms,rfl,_⟩ := enters
    rfl
  | index i =>
    obtain ⟨items,rfl,_⟩ := enters
    simp [ofToken,shown,position?_text (word i rfl)]

end Segment

/-! Text of whole pointers. -/
namespace Pointer

/-- The pieces between the slashes of a text are what its segments are written as. -/
theorem splitOn_chars (s : Segment) (rest : List Segment) :
    (s.chars ++ (⟨rest⟩ : Pointer).chars).splitOn '/' = s.chars :: rest.map Segment.chars := by
  induction rest generalizing s with
  | nil => simpa [chars] using List.splitOn_eq_singleton s.slash_not_mem_chars
  | cons next rest ih =>
    have text : (⟨next :: rest⟩ : Pointer).chars =
        '/' :: (next.chars ++ (⟨rest⟩ : Pointer).chars) := by simp [chars]
    rw [text,List.splitOn_append_cons_self_of_not_mem s.slash_not_mem_chars,ih,List.map_cons]

/-- The tokens of a pointer's text are what its segments show. -/
theorem tokens?_text (p : Pointer) : tokens? p.text = some (p.segments.map Segment.shown) := by
  obtain ⟨segments⟩ := p
  cases segments with
  | nil => rfl
  | cons s rest =>
    have text : (text ⟨s :: rest⟩).toList = '/' :: (s.chars ++ (⟨rest⟩ : Pointer).chars) := by
      simp [Pointer.text,chars]
    simp [tokens?,text,splitOn_chars,Segment.unescape_chars,Function.comp_def]

/-- All positions are words of 64 bits. -/
def Words (p : Pointer) : Prop := ∀ i, .index i ∈ p.segments → i < twoTo 64

theorem typed_shown {root node : Json} {segments : List Segment} (words : Words ⟨segments⟩)
    (walk : Walk root segments node) :
    typed (some root) (segments.map Segment.shown) = segments := by
  induction walk with
  | here => rfl
  | @step v w u s rest enters _ ih =>
    have below := ih fun i member => words i (List.mem_cons_of_mem s member)
    have word (i : Nat) (same : s = .index i) : i < twoTo 64 :=
      words i (same ▸ List.mem_cons_self)
    simp only [List.map_cons,typed,Segment.ofToken_shown enters word]
    simp only [Option.bind_some,Segment.step?_eq_some_iff.mpr enters,below]

/-- A pointer that leads somewhere in a document is read back from its text. -/
theorem parseAgainst?_text {p : Pointer} {root node : Json} (words : p.Words)
    (found : p.resolve? root = some node) : parseAgainst? p.text root = some p := by
  have walk : Walk root p.segments node := walk_iff.mp found
  simp [parseAgainst?,tokens?_text,typed_shown words walk]

theorem words_of_walk {root node : Json} {segments : List Segment} (fits : root.Addressable)
    (walk : Walk root segments node) : Words ⟨segments⟩ := by
  induction walk with
  | here => simp [Words]
  | step enters _ ih =>
    intro i member
    rcases List.mem_cons.mp member with rfl | later
    · obtain ⟨items,rfl,item⟩ := enters
      exact Nat.lt_of_lt_of_le (List.getElem?_eq_some_iff.mp item).1 (fits.length_le items rfl)
    · exact ih (fits.enters enters) i later

/-- Where a pointer leads somewhere in a document whose arrays fit, its positions are words. -/
theorem words_of_found {p : Pointer} {root node : Json} (fits : root.Addressable)
    (found : p.resolve? root = some node) : p.Words :=
  words_of_walk fits (walk_iff.mp found)

end Pointer
end ApiReview
