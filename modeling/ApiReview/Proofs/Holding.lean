import ApiReview.Yaml.Typed
import ApiReview.Proofs.Written

/-! Nodes that hold a JSON value, and what is read of them where something of a kind is expected. A
value is held without tags and aliases, and its strings in any style in which they are strings. -/
namespace ApiReview.Yaml

/-- Whether a scalar without a tag is a string: quoted, or nothing else when it is plain. -/
def isText (text : String) (style : ScalarStyle) : Bool :=
  style ≠ .plain || match resolve text with
    | .string _ => true
    | _ => false

/-! Digits read as a whole number. -/

section
variable {cs : List Char}

theorem digit?_ten {c : Char} (inside : Decimal.isDigit c = true) :
    digit? 10 c = some (Decimal.digitValue c) := by
  simp only [Decimal.isDigit,Bool.and_eq_true,decide_eq_true_eq] at inside
  have bound : c.toNat ≤ 57 := inside.2
  rw [digit?,Text.hexValue?,if_pos inside,Decimal.digitValue]
  exact Option.filter_eq_some_iff.mpr ⟨rfl,by simp; omega⟩

theorem natOf?_digits (some : cs ≠ []) (digits : ∀ c ∈ cs, Decimal.isDigit c = true) :
    natOf? 10 cs = .some (Decimal.value cs) := by
  have fold (n : Nat) : cs.foldlM (fun n c => (digit? 10 c).map (n * 10 + ·)) n =
      .some (cs.foldl (fun n c => 10 * n + Decimal.digitValue c) n) := by
    clear some
    induction cs generalizing n with
    | nil => rfl
    | cons c rest ih =>
      obtain ⟨here,there⟩ := List.forall_mem_cons.mp digits
      rw [List.foldlM_cons,digit?_ten here,List.foldl_cons,Nat.mul_comm 10 n]
      exact ih there _
  rw [natOf?,if_neg (by simpa using some),fold]
  rfl

theorem dropPlus_digits (digits : ∀ c ∈ cs, Decimal.isDigit c = true) : dropPlus cs = cs := by
  unfold dropPlus
  split
  · exact absurd (digits '+' List.mem_cons_self) (by decide)
  · rfl

theorem radix?_digits (digits : ∀ c ∈ cs, Decimal.isDigit c = true) : radix? cs = none := by
  have second {c d : Char} {rest : List Char} (same : cs = c :: d :: rest) : Decimal.isDigit d = true :=
    digits d (by simp [same])
  unfold radix?
  split
  · exact absurd (second rfl) (by decide)
  · exact absurd (second rfl) (by decide)
  · exact absurd (second rfl) (by decide)
  · rfl

theorem isZeroPadded_digits (n : Nat) : isZeroPadded (Decimal.digits n) = false := by
  cases n with
  | zero => rw [Decimal.digits]; rfl
  | succ n =>
    have first := Decimal.digits_ne_zero (Nat.succ_pos n)
    have digits : ∀ c ∈ Decimal.digits (n + 1), Decimal.isDigit c = true :=
      fun c => Decimal.isDigit_of_mem_digits
    generalize Decimal.digits (n + 1) = cs at first digits
    unfold isZeroPadded
    split
    · next padded =>
      split at padded
      · exact absurd (digits '+' List.mem_cons_self) (by decide)
      · exact absurd (digits '-' List.mem_cons_self) (by decide)
      · exact absurd (congrArg List.head? padded) first
    · rfl

/-- Digits below a bound are read as the number that they were written for. -/
theorem unsigned?_digits {n bound : Nat} (below : n < bound) :
    unsigned? bound (String.ofList (Decimal.digits n)) = some n := by
  have digits : ∀ c ∈ Decimal.digits n, Decimal.isDigit c = true :=
    fun c => Decimal.isDigit_of_mem_digits
  have whole := natOf?_digits (Segment.digits_ne_nil n) digits
  rw [Decimal.value_digits] at whole
  simp [unsigned?,dropPlus_digits digits,radix?_digits digits,isZeroPadded_digits,whole,below]

end

namespace Node

def holdsText (s : String) : Node → Bool
  | .scalar _ _ none text style => text = s && isText text style
  | _ => false

def plain? : Node → Option String
  | .scalar _ _ none text .plain => some text
  | _ => none

mutual

/-- Whether a node holds a value. What is no string stands plain, as it is printed. -/
def holds : Json → Node → Bool
  | .null,n => n.plain? = some "null"
  | .bool b,n => n.plain? = some (if b then "true" else "false")
  | .number x,n => n.plain? = some (String.ofList (Json.numberChars x))
  | .string s,n => n.holdsText s
  | .array vs,n => match n with
    | .sequence _ _ none items => holdItems vs items
    | _ => false
  | .object ms,n => match n with
    | .mapping _ _ none pairs => holdMembers ms pairs
    | _ => false

def holdItems : List Json → List Node → Bool
  | [],[] => true
  | v :: vs,n :: rest => holds v n && holdItems vs rest
  | _,_ => false

def holdMembers : List (String × Json) → List (Node × Node) → Bool
  | [],[] => true
  | (name,v) :: ms,(k,n) :: rest => k.holdsText name && holds v n && holdMembers ms rest
  | _,_ => false

end

mutual

theorem exists_holds : ∀ v : Json, ∃ n : Node, n.holds v = true
  | .null => ⟨.scalar {} none none "null" .plain,by simp [holds,plain?]⟩
  | .bool b => ⟨.scalar {} none none (if b then "true" else "false") .plain,by simp [holds,plain?]⟩
  | .number x => ⟨.scalar {} none none (String.ofList (Json.numberChars x)) .plain,by simp [holds,plain?]⟩
  | .string s => ⟨.scalar {} none none s .doubleQuoted,by simp [holds,holdsText,isText]⟩
  | .array vs => by
    obtain ⟨items,held⟩ := exists_holdItems vs
    exact ⟨.sequence {} none none items,held⟩
  | .object ms => by
    obtain ⟨pairs,held⟩ := exists_holdMembers ms
    exact ⟨.mapping {} none none pairs,held⟩

theorem exists_holdItems : ∀ vs : List Json, ∃ items : List Node, holdItems vs items = true
  | [] => ⟨[],rfl⟩
  | v :: vs => by
    obtain ⟨n,held⟩ := exists_holds v
    obtain ⟨rest,others⟩ := exists_holdItems vs
    exact ⟨n :: rest,by simp [holdItems,held,others]⟩

theorem exists_holdMembers : ∀ ms : List (String × Json),
    ∃ pairs : List (Node × Node), holdMembers ms pairs = true
  | [] => ⟨[],rfl⟩
  | (name,v) :: ms => by
    obtain ⟨n,held⟩ := exists_holds v
    obtain ⟨rest,others⟩ := exists_holdMembers ms
    exact ⟨(.scalar {} none none name .doubleQuoted,n) :: rest,
      by simp [holdMembers,holdsText,isText,held,others]⟩

end

section
variable {n : Node} {s text : String}

theorem holdsText_iff : n.holdsText s = true ↔
    ∃ m a style, n = .scalar m a none s style ∧ isText s style = true := by
  constructor
  · intro held
    unfold holdsText at held
    split at held
    · next m a text style =>
      simp only [Bool.and_eq_true,decide_eq_true_eq] at held
      obtain ⟨rfl,text⟩ := held
      exact ⟨m,a,style,rfl,text⟩
    · cases held
  · rintro ⟨m,a,style,rfl,text⟩
    simp [holdsText,text]

theorem plain?_iff : n.plain? = some text ↔ ∃ m a, n = .scalar m a none text .plain := by
  constructor
  · intro plain
    unfold plain? at plain
    split at plain
    · next m a _ =>
      cases plain
      exact ⟨m,a,rfl⟩
    · cases plain
  · rintro ⟨m,a,rfl⟩
    rfl

theorem holds_object {ms : List (String × Json)} (held : n.holds (.object ms) = true) :
    ∃ m a pairs, n = .mapping m a none pairs ∧ holdMembers ms pairs = true := by
  unfold holds at held
  split at held
  · next m a pairs => exact ⟨m,a,pairs,rfl,held⟩
  · cases held

theorem holdMembers_nil {pairs : List (Node × Node)} (held : holdMembers [] pairs = true) :
    pairs = [] := by
  cases pairs with
  | nil => rfl
  | cons _ _ => simp [holdMembers] at held

theorem holdMembers_cons {name : String} {v : Json} {ms : List (String × Json)}
    {pairs : List (Node × Node)} (held : holdMembers ((name,v) :: ms) pairs = true) :
    ∃ k n rest, pairs = (k,n) :: rest ∧ k.holdsText name = true ∧ n.holds v = true ∧
      holdMembers ms rest = true := by
  cases pairs with
  | nil => simp [holdMembers] at held
  | cons e rest =>
    simp only [holdMembers,Bool.and_eq_true] at held
    exact ⟨e.1,e.2,rest,rfl,held.1.1,held.1.2,held.2⟩

end

/-! What is read of nodes. -/

section
variable {α : Type} {d : LoadedDocument} {n : Node} {path : Path} {s text expected : String} {a : α}

@[simp] theorem located_pure (m : Mark) (path : Path) (a : α) :
    located m path (pure a : Reading α) = pure a := rfl

theorem readText_holds {read : String → Reading α} (held : n.holdsText s = true)
    (done : read s = pure a) : readText d expected read path n = pure a := by
  obtain ⟨m,b,style,rfl,_⟩ := holdsText_iff.mp held
  exact (congrArg (located m path) done).trans (located_pure m path a)

theorem readField_holds {known : List String} (held : n.holdsText s = true)
    (known' : known.contains s = true) : readField d known path n = pure s :=
  readText_holds held (if_pos known')

theorem readLiteral_plain {kind : String} {read? : String → Option α}
    (plain : n.plain? = some text) (done : read? text = some a) :
    readLiteral d kind expected read? path n = pure a := by
  obtain ⟨m,b,rfl⟩ := plain?_iff.mp plain
  simp [readLiteral,behindAlias,done]

theorem readMapping_holds {read : Path → List (Node × Node) → Reading α}
    {ms : List (String × Json)} (held : n.holds (.object ms) = true)
    (done : ∀ pairs, holdMembers ms pairs = true → read path pairs = pure a) :
    readMapping d expected read path n = pure a := by
  obtain ⟨m,b,pairs,rfl,members⟩ := holds_object held
  exact (congrArg (located m path) (done pairs members)).trans (located_pure m path a)

theorem readVariant_holds {known : List (String × α)} (held : n.holdsText s = true)
    (found : known.lookup s = some a) : readVariant d known path n = pure a := by
  obtain ⟨m,b,style,rfl,_⟩ := holdsText_iff.mp held
  simp [readVariant,behindAlias,localTag?,tag?,variant,found]

/-- A string is never read as nothing. -/
theorem readOptional_holds {read : Path → Node → Reading α} (held : n.holdsText s = true)
    (done : read path n = pure a) : readOptional d read path n = pure (some a) := by
  obtain ⟨m,b,style,rfl,text⟩ := holdsText_iff.mp held
  have present : (decide (style = .plain) && (s.isEmpty || isNull s)) = false := by
    by_contra nothing
    simp only [Bool.not_eq_false,Bool.and_eq_true,decide_eq_true_eq] at nothing
    obtain ⟨rfl,empty⟩ := nothing
    simp [isText,resolve,empty] at text
  simp [readOptional,isAbsent,present,done]

end

end Node

namespace LoadedDocument

/-- Whether a text was read to its end as one document that holds a value. -/
def holds (d : LoadedDocument) (v : Json) : Bool :=
  d.root.any (·.holds v) && d.failure.isNone && !d.more

theorem holds_iff {d : LoadedDocument} {v : Json} : d.holds v = true ↔
    (∃ n, d.root = some n ∧ n.holds v = true) ∧ d.failure = none ∧ d.more = false := by
  simp [holds,Option.any_eq_true,and_assoc]

theorem exists_holds (v : Json) : ∃ d : LoadedDocument, d.holds v = true := by
  obtain ⟨n,held⟩ := Node.exists_holds v
  exact ⟨⟨some n,0,none,false⟩,holds_iff.mpr ⟨⟨n,rfl,held⟩,rfl,rfl⟩⟩

theorem whole_pure {α : Type} {d : LoadedDocument} (whole : d.failure = none) (single : d.more = false)
    (a : α) : d.whole (pure a) = .ok a := by
  simp only [LoadedDocument.whole,whole,single]
  rfl

end LoadedDocument
end ApiReview.Yaml
