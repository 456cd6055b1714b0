import ApiReview.Json.Printer
import ApiReview.Proofs.Inside
import ApiReview.Proofs.Pointer
import ApiReview.Proofs.Whole

/-! Values written and read back. The reader is followed along the text that the printer makes of a
value, piece by piece, for any text behind it. Texts without spaces and texts in lines are two
layouts of one form, which is read off whatever blanks it has. -/
namespace ApiReview
namespace Decimal

theorem digits_ne_zero {n : Nat} (positive : 0 < n) : (digits n).head? ≠ some '0' := by
  induction n using Nat.strongRecOn with
  | _ n ih =>
    rw [digits]
    split
    · next small =>
      have all : ∀ m < 10, 0 < m → digit m ≠ '0' := by decide
      simpa using all n small positive
    · next large =>
      have front := ih (n / 10) (by omega) (by omega)
      cases first : digits (n / 10) with
      | nil =>
        rw [digits] at first
        split at first <;> simp at first
      | cons c cs => simpa [first] using front

end Decimal

namespace Json

@[simp] theorem andThen_found {α β : Type} (a : α) (rest : List Char)
    (next : α → List Char → Step β) : andThen (.ok (a,rest)) next = next a rest := rfl

/-! Strings. Whatever a character is written as is read in one round. -/

theorem hexValue?_hexDigit {n : Nat} (small : n < 16) : Text.hexValue? (hexDigit n) = some n := by
  have all : ∀ m < 16, Text.hexValue? (hexDigit m) = some m := by decide
  exact all n small

theorem escape_control {c : Char} (control : c.toNat < 32) (rest : List Char) :
    escape ('u' :: '0' :: '0' :: hexDigit (c.toNat / 16) :: hexDigit (c.toNat % 16) :: rest) =
      .ok (c,rest) := by
  have zero : Text.hexValue? '0' = some 0 := by decide
  have high := hexValue?_hexDigit (n := c.toNat / 16) (by omega)
  have low := hexValue?_hexDigit (n := c.toNat % 16) (by omega)
  have whole : 4096 * 0 + 256 * 0 + 16 * (c.toNat / 16) + c.toNat % 16 = c.toNat := by omega
  rw [escape,unicodeEscape,hexEscape]
  simp only [zero,high,low,andThen_found,whole]
  rw [if_neg (by omega),if_pos (by omega),Char.ofNat_toNat]

theorem stringBody_escapeChar (budget : Nat) (read : List Char) (c : Char) (rest : List Char) :
    stringBody (budget + 1) read (escapeChar c ++ rest) = stringBody budget (c :: read) rest := by
  by_cases named : c ∈ ['"','\\','\n','\r','\t','\x08','\x0c']
  · simp only [List.mem_cons,List.not_mem_nil,or_false] at named
    rcases named with rfl | rfl | rfl | rfl | rfl | rfl | rfl <;> rfl
  · have other : escapeChar c = if c.toNat < 32 then
        ['\\','u','0','0',hexDigit (c.toNat / 16),hexDigit (c.toNat % 16)] else [c] := by
      simp_all [escapeChar]
    rw [other]
    split
    · next control =>
      have back : ('\\' : Char) ≠ '"' := by decide
      simp only [List.cons_append,List.nil_append]
      rw [stringBody,if_neg back,if_pos rfl,escape_control control,andThen_found]
    · next printed =>
      simp only [List.mem_cons,not_or] at named
      rw [List.singleton_append,stringBody,if_neg named.1,if_neg named.2.1,if_neg printed]

theorem escapeChar_ne_nil (c : Char) : escapeChar c ≠ [] := by
  unfold escapeChar
  repeat' split
  all_goals simp

theorem length_le_flatMap {α : Type} {f : α → List Char} (some : ∀ a, f a ≠ []) (list : List α) :
    list.length ≤ (list.flatMap f).length := by
  induction list with
  | nil => exact Nat.le_refl 0
  | cons a rest ih =>
    have here := List.length_pos_iff.mpr (some a)
    rw [List.flatMap_cons,List.length_append,List.length_cons]
    omega

theorem stringBody_escaped (cs : List Char) {budget : Nat} (enough : cs.length < budget)
    (read rest : List Char) : stringBody budget read (cs.flatMap escapeChar ++ '"' :: rest) =
      .ok (String.ofList (read.reverse ++ cs),rest) := by
  induction cs generalizing budget read with
  | nil =>
    obtain ⟨n,rfl⟩ : ∃ n, budget = n + 1 := ⟨budget - 1,by simp at enough; omega⟩
    simp [stringBody]
  | cons c cs ih =>
    obtain ⟨n,rfl⟩ : ∃ n, budget = n + 1 := ⟨budget - 1,by simp at enough; omega⟩
    rw [List.flatMap_cons,List.append_assoc,stringBody_escapeChar,ih (by simpa using enough)]
    simp

/-- What stands between the quotes of a string, and what is behind them. -/
theorem stringBody_quoted (s : String) (rest : List Char) :
    ∃ cs, quoted s ++ rest = '"' :: cs ∧ stringBody cs.length [] cs = .ok (s,rest) := by
  refine ⟨s.toList.flatMap escapeChar ++ '"' :: rest,by simp [quoted],?_⟩
  have enough := length_le_flatMap escapeChar_ne_nil s.toList
  rw [stringBody_escaped _ (by rw [List.length_append,List.length_cons]; omega)]
  simp

/-! Numbers. Digits are taken as long as there are any, so what follows must not go on with them. -/

/-- A character that no number goes on with: no digit, no point and no exponent. -/
def Stops (c : Char) : Prop := Decimal.isDigit c = false ∧ c ≠ '.' ∧ c ≠ 'e' ∧ c ≠ 'E'

instance (c : Char) : Decidable (Stops c) := by unfold Stops; infer_instance

/-- What may stand behind a number. -/
def Ends (rest : List Char) : Prop := ∀ c ∈ rest.head?, Stops c

theorem takeWhile_ends {rest : List Char} (ends : Ends rest) :
    rest.takeWhile Decimal.isDigit = [] ∧ rest.dropWhile Decimal.isDigit = rest := by
  cases rest with
  | nil => exact ⟨rfl,rfl⟩
  | cons c rest =>
    have no := (ends c (by simp)).1
    simp [no]

theorem le_foldl_digits (ds : List Char) (n : Nat) :
    n ≤ ds.foldl (fun n c => 10 * n + Decimal.digitValue c) n := by
  induction ds generalizing n with
  | nil => exact Nat.le_refl n
  | cons c ds ih =>
    have step := ih (10 * n + Decimal.digitValue c)
    rw [List.foldl_cons]
    omega

theorem absorb_all {limit : Nat} {ds : List Char} {n : Nat}
    (fits : ds.foldl (fun n c => 10 * n + Decimal.digitValue c) n ≤ limit) :
    absorb limit n ds = (ds.foldl (fun n c => 10 * n + Decimal.digitValue c) n,ds.length) := by
  induction ds generalizing n with
  | nil => rfl
  | cons c ds ih =>
    rw [List.foldl_cons] at fits ⊢
    have first := Nat.le_trans (le_foldl_digits ds _) fits
    rw [absorb]
    simp only [if_pos first,ih fits,List.length_cons]

theorem numberBody_digits {negative : Bool} {n : Nat} {rest : List Char} (word : n ≤ greatestWord)
    (sign : n ≠ 0 ∨ ¬ negative = true) {i : Int} (same : i = if negative then -(n : Int) else n)
    (fits : FitsWord i) (ends : Ends rest) :
    numberBody negative (Decimal.digits n ++ rest) = .ok (.integer i fits,rest) := by
  have all : ∀ c ∈ Decimal.digits n, Decimal.isDigit c = true :=
    fun c member => Decimal.isDigit_of_mem_digits member
  have run : (Decimal.digits n ++ rest).takeWhile Decimal.isDigit = Decimal.digits n := by
    rw [List.takeWhile_append_of_pos all,(takeWhile_ends ends).1,List.append_nil]
  have left : (Decimal.digits n ++ rest).dropWhile Decimal.isDigit = rest := by
    rw [List.dropWhile_append_of_pos all,(takeWhile_ends ends).2]
  have value := Decimal.value_digits n
  rw [Decimal.value] at value
  have absorbed : absorb greatestWord 0 (Decimal.digits n) = (n,(Decimal.digits n).length) := by
    rw [absorb_all (by rw [value]; exact word),value]
  obtain ⟨c,ds,first⟩ := List.exists_cons_of_ne_nil (Segment.digits_ne_nil n)
  have digit : Decimal.isDigit c = true := all c (by simp [first])
  -- a zero in front is the whole number, and what follows it is no digit
  have front : ¬ (c = '0' ∧ Decimal.isDigit ((ds ++ rest).headD ' ') = true) := by
    rintro ⟨rfl,more⟩
    by_cases zero : n = 0
    · subst zero
      obtain ⟨_,rfl⟩ : '0' = Decimal.digit 0 ∧ ds = [] := by
        simpa [Decimal.digits] using first.symm
      cases rest with
      | nil => exact absurd more (by decide)
      | cons d rest => simp [(ends d (by simp)).1] at more
    · exact Decimal.digits_ne_zero (Nat.pos_of_ne_zero zero) (by simp [first])
  rw [first] at run left absorbed ⊢
  rw [List.cons_append] at run left ⊢
  unfold numberBody
  simp only [digit,not_true,if_false,if_neg front,run,left,absorbed,Int.sub_self]
  split
  · exact absurd rfl (ends '.' (by simp)).2.1
  · exact absurd rfl (ends 'e' (by simp)).2.2.1
  · exact absurd rfl (ends 'E' (by simp)).2.2.2
  · subst same
    exact dif_pos ⟨trivial,sign,fits⟩

theorem numberBody_negative {i : Int} (below : i < 0) (fits : FitsWord i) {rest : List Char}
    (ends : Ends rest) :
    numberBody true (Decimal.digits i.natAbs ++ rest) = .ok (.integer i fits,rest) := by
  unfold FitsWord at fits
  refine numberBody_digits ?_ (.inl (by omega)) (by rw [if_pos rfl]; omega) fits ends
  rw [greatestWord]
  omega

theorem numberBody_positive {i : Int} (above : ¬ i < 0) (fits : FitsWord i) {rest : List Char}
    (ends : Ends rest) :
    numberBody false (Decimal.digits i.natAbs ++ rest) = .ok (.integer i fits,rest) := by
  unfold FitsWord at fits
  refine numberBody_digits ?_ (.inr (by decide)) (by rw [if_neg (by decide)]; omega) fits ends
  rw [greatestWord]
  omega

/-! Values. Blanks may stand in front of every part of a container, and the text of a part begins
with what is neither blank nor closes the container. -/

def Opens (cs : List Char) : Prop :=
  ∃ c tail, cs = c :: tail ∧ isBlank c = false ∧ c ≠ ']' ∧ c ≠ '}'

theorem Opens.append {cs : List Char} (opens : Opens cs) (rest : List Char) : Opens (cs ++ rest) := by
  obtain ⟨c,tail,rfl,plain⟩ := opens
  exact ⟨c,tail ++ rest,rfl,plain⟩

theorem blank_nil : ∀ c ∈ ([] : List Char), isBlank c = true := by simp

theorem skipBlanks_opens {gap cs : List Char} (blank : ∀ c ∈ gap, isBlank c = true)
    (opens : Opens cs) : skipBlanks (gap ++ cs) = cs := by
  obtain ⟨c,tail,rfl,plain,_⟩ := opens
  rw [skipBlanks,List.dropWhile_append_of_pos blank,List.dropWhile_cons_of_neg (by simp [plain])]

theorem skipBlanks_mark {gap : List Char} (blank : ∀ c ∈ gap, isBlank c = true) {c : Char}
    (plain : isBlank c = false) (rest : List Char) : skipBlanks (gap ++ c :: rest) = c :: rest := by
  rw [skipBlanks,List.dropWhile_append_of_pos blank,List.dropWhile_cons_of_neg (by simp [plain])]

theorem stops_of_isBlank {c : Char} (blank : isBlank c = true) : Stops c := by
  simp only [isBlank,Bool.or_eq_true,decide_eq_true_eq] at blank
  rcases blank with ((rfl | rfl) | rfl) | rfl <;> decide

theorem ends_mark {gap : List Char} (blank : ∀ c ∈ gap, isBlank c = true) {c : Char}
    (mark : Stops c) (rest : List Char) : Ends (gap ++ c :: rest) := by
  intro d first
  cases gap with
  | nil =>
    cases first
    exact mark
  | cons b gap =>
    cases first
    exact stops_of_isBlank (blank d List.mem_cons_self)

/-! What a value does is decided by its first character. -/

theorem value_bracket (depth : Nat) (cs : List Char) :
    value (depth + 1) ('[' :: cs) = itemsFrom (value depth) (cs.length + 1) true [] cs := rfl

theorem value_brace (depth : Nat) (cs : List Char) :
    value (depth + 1) ('{' :: cs) = membersFrom (value depth) (cs.length + 1) true [] cs := rfl

theorem value_quote (depth : Nat) (cs : List Char) : value depth ('"' :: cs) =
    andThen (stringBody cs.length [] cs) fun s rest => .ok (.string s,rest) := by
  cases depth <;> rfl

theorem value_minus (depth : Nat) (cs : List Char) : value depth ('-' :: cs) =
    andThen (numberBody true cs) fun n rest => .ok (.number n,rest) := by
  cases depth <;> rfl

theorem value_null (depth : Nat) (cs : List Char) :
    value depth ('n' :: cs) = word .null ['u','l','l'] cs := by
  cases depth <;> rfl

theorem value_true (depth : Nat) (cs : List Char) :
    value depth ('t' :: cs) = word (.bool true) ['r','u','e'] cs := by
  cases depth <;> rfl

theorem value_false (depth : Nat) (cs : List Char) :
    value depth ('f' :: cs) = word (.bool false) ['a','l','s','e'] cs := by
  cases depth <;> rfl

section
variable {item : List Char → Step Json}

theorem itemsFrom_close {gap : List Char} (blank : ∀ c ∈ gap, isBlank c = true) (budget : Nat)
    (first : Bool) (read : List Json) (rest : List Char) :
    itemsFrom item (budget + 1) first read (gap ++ ']' :: rest) =
      .ok (.array read.reverse,rest) := by
  simp only [itemsFrom,skipBlanks_mark blank (c := ']') (by decide)]

theorem itemsFrom_first {gap cs : List Char} (blank : ∀ c ∈ gap, isBlank c = true)
    (opens : Opens cs) (budget : Nat) (read : List Json) :
    itemsFrom item (budget + 1) true read (gap ++ cs) =
      andThen (item cs) fun v rest => itemsFrom item budget false (v :: read) rest := by
  have next := skipBlanks_opens blank opens
  obtain ⟨c,tail,rfl,_,other,_⟩ := opens
  simp [itemsFrom,next]

theorem itemsFrom_comma {gap cs : List Char} (blank : ∀ c ∈ gap, isBlank c = true)
    (opens : Opens cs) (budget : Nat) (read : List Json) :
    itemsFrom item (budget + 1) false read (',' :: (gap ++ cs)) =
      andThen (item cs) fun v rest => itemsFrom item budget false (v :: read) rest := by
  have next := skipBlanks_opens blank opens
  have comma := skipBlanks_mark blank_nil (c := ',') (by decide) (gap ++ cs)
  rw [List.nil_append] at comma
  obtain ⟨c,tail,rfl,_,other,_⟩ := opens
  simp [itemsFrom,comma,next,other]

theorem membersFrom_close {gap : List Char} (blank : ∀ c ∈ gap, isBlank c = true) (budget : Nat)
    (first : Bool) (read : List (String × Json)) (rest : List Char) :
    membersFrom item (budget + 1) first read (gap ++ '}' :: rest) = .ok (.object read,rest) := by
  simp only [membersFrom,skipBlanks_mark blank (c := '}') (by decide)]

theorem membersFrom_first {gap cs : List Char} (blank : ∀ c ∈ gap, isBlank c = true)
    (opens : Opens cs) (budget : Nat) (read : List (String × Json)) :
    membersFrom item (budget + 1) true read (gap ++ cs) =
      andThen (member item cs) fun m rest =>
        membersFrom item budget false (insert m.1 m.2 read) rest := by
  have next := skipBlanks_opens blank opens
  obtain ⟨c,tail,rfl,_,_,other⟩ := opens
  simp [membersFrom,next]

theorem membersFrom_comma {gap cs : List Char} (blank : ∀ c ∈ gap, isBlank c = true)
    (opens : Opens cs) (budget : Nat) (read : List (String × Json)) :
    membersFrom item (budget + 1) false read (',' :: (gap ++ cs)) =
      andThen (member item cs) fun m rest =>
        membersFrom item budget false (insert m.1 m.2 read) rest := by
  have next := skipBlanks_opens blank opens
  have comma := skipBlanks_mark blank_nil (c := ',') (by decide) (gap ++ cs)
  rw [List.nil_append] at comma
  obtain ⟨c,tail,rfl,_,_,other⟩ := opens
  simp [membersFrom,comma,next,other]

theorem member_quoted {cs rest : List Char} {v : Json} (below : item cs = .ok (v,rest))
    (name : String) : member item (quoted name ++ ':' :: cs) = .ok ((name,v),rest) := by
  obtain ⟨inner,open_,closed⟩ := stringBody_quoted name (':' :: cs)
  have colon := skipBlanks_mark blank_nil (c := ':') (by decide) cs
  rw [List.nil_append] at colon
  rw [open_,member,closed,andThen_found,colon]
  simp only [below,andThen_found]

/-- A text that a step reads off as a whole, whatever stands behind it. -/
def Reads {α : Type} (step : List Char → Step α) (cs : List Char) (a : α) : Prop :=
  Opens cs ∧ ∀ rest, Ends rest → step (cs ++ rest) = .ok (a,rest)

theorem member_reads {gap cs : List Char} {v : Json} (name : String)
    (below : ∀ rest, Ends rest → item (gap ++ cs ++ rest) = .ok (v,rest)) :
    Reads (member item) (quoted name ++ ':' :: (gap ++ cs)) (name,v) := by
  refine ⟨⟨'"',_,rfl,by decide⟩,fun rest ends => ?_⟩
  rw [List.append_assoc,List.cons_append]
  exact member_quoted (below rest ends) name

/-- The parts of a container, each with the same blanks in front, and commas between them. -/
def listed {α : Type} (gap : List Char) (text : α → List Char) : List α → List Char
  | [] => []
  | a :: rest => gap ++ text a ++ rest.flatMap fun b => ',' :: (gap ++ text b)

theorem length_le_listed {α : Type} (gap : List Char) {text : α → List Char} {list : List α}
    (some : ∀ a ∈ list, Opens (text a)) : list.length ≤ (listed gap text list).length := by
  cases list with
  | nil => exact Nat.le_refl 0
  | cons a list =>
    obtain ⟨c,tail,first,_⟩ := some a List.mem_cons_self
    have others := length_le_flatMap (f := fun b => ',' :: (gap ++ text b)) (by simp) list
    rw [listed,first]
    simp only [List.length_append,List.length_cons]
    omega

theorem ends_list {α : Type} {gap last : List Char} (ended : ∀ c ∈ last, isBlank c = true)
    (text : α → List Char) (list : List α) {c : Char} (mark : Stops c) (rest : List Char) :
    Ends (list.flatMap (fun a => ',' :: (gap ++ text a)) ++ (last ++ c :: rest)) := by
  cases list with
  | nil => exact ends_mark ended mark rest
  | cons a list => exact ends_mark blank_nil (by decide) _

variable {gap last : List Char} (blank : ∀ c ∈ gap, isBlank c = true)
  (ended : ∀ c ∈ last, isBlank c = true)
include blank ended

theorem itemsFrom_list {text : Json → List Char} {vs : List Json}
    (each : ∀ v ∈ vs, Reads item (text v) v) {budget : Nat} (enough : vs.length < budget)
    (read : List Json) (rest : List Char) :
    itemsFrom item budget false read
        (vs.flatMap (fun v => ',' :: (gap ++ text v)) ++ (last ++ ']' :: rest)) =
      .ok (.array (read.reverse ++ vs),rest) := by
  induction vs generalizing read budget with
  | nil =>
    obtain ⟨n,rfl⟩ := Nat.exists_eq_add_one.mpr enough
    rw [List.append_nil]
    exact itemsFrom_close ended n false read rest
  | cons v vs ih =>
    obtain ⟨n,rfl⟩ := Nat.exists_eq_add_one.mpr (Nat.zero_lt_of_lt enough)
    obtain ⟨opens,here⟩ := each v List.mem_cons_self
    rw [List.flatMap_cons,List.cons_append,List.cons_append,List.append_assoc,List.append_assoc]
    rw [itemsFrom_comma blank (opens.append _),here _ (ends_list ended text vs (by decide) rest)]
    rw [andThen_found,ih (fun w later => each w (List.mem_cons_of_mem v later))
      (Nat.lt_of_succ_lt_succ enough)]
    simp

theorem membersFrom_list {text : String × Json → List Char} {ms : List (String × Json)}
    (each : ∀ m ∈ ms, Reads (member item) (text m) m) {budget : Nat} (enough : ms.length < budget)
    (read : List (String × Json)) (apart : ((read ++ ms).map Prod.fst).Nodup) (rest : List Char) :
    membersFrom item budget false read
        (ms.flatMap (fun m => ',' :: (gap ++ text m)) ++ (last ++ '}' :: rest)) =
      .ok (.object (read ++ ms),rest) := by
  induction ms generalizing read budget with
  | nil =>
    obtain ⟨n,rfl⟩ := Nat.exists_eq_add_one.mpr enough
    rw [List.append_nil]
    exact membersFrom_close ended n false read rest
  | cons m ms ih =>
    obtain ⟨n,rfl⟩ := Nat.exists_eq_add_one.mpr (Nat.zero_lt_of_lt enough)
    obtain ⟨opens,here⟩ := each m List.mem_cons_self
    have new : m.1 ∉ read.map Prod.fst := fun old => by
      rw [List.map_append] at apart
      exact (List.nodup_append.mp apart).2.2 m.1 old m.1 (by simp) rfl
    have joined : read ++ m :: ms = insert m.1 m.2 read ++ ms := by
      rw [insert_new new]
      simp
    rw [joined] at apart ⊢
    rw [List.flatMap_cons,List.cons_append,List.cons_append,List.append_assoc,List.append_assoc]
    rw [membersFrom_comma blank (opens.append _),here _ (ends_list ended text ms (by decide) rest)]
    rw [andThen_found,ih (fun w later => each w (List.mem_cons_of_mem m later))
      (Nat.lt_of_succ_lt_succ enough) _ apart]

theorem array_reads {depth : Nat} {text : Json → List Char} {vs : List Json}
    (each : ∀ v ∈ vs, Reads (value depth) (text v) v) :
    Reads (value (depth + 1)) ('[' :: (listed gap text vs ++ (last ++ [']']))) (.array vs) := by
  refine ⟨⟨'[',_,rfl,by decide⟩,fun rest _ => ?_⟩
  have enough := length_le_listed gap fun v member => (each v member).1
  rw [List.cons_append,value_bracket,List.append_assoc,List.append_assoc,List.singleton_append]
  have budget : vs.length < (listed gap text vs ++ (last ++ ']' :: rest)).length + 1 := by
    rw [List.length_append]
    omega
  cases vs with
  | nil => exact itemsFrom_close ended _ true [] rest
  | cons v vs =>
    obtain ⟨opens,here⟩ := each v List.mem_cons_self
    rw [listed,List.append_assoc,List.append_assoc] at budget ⊢
    rw [itemsFrom_first blank (opens.append _),here _ (ends_list ended text vs (by decide) rest)]
    exact itemsFrom_list blank ended (fun w later => each w (List.mem_cons_of_mem v later))
      (Nat.lt_of_succ_lt_succ budget) [v] rest

theorem object_reads {depth : Nat} {text : String × Json → List Char} {ms : List (String × Json)}
    (each : ∀ m ∈ ms, Reads (member (value depth)) (text m) m)
    (apart : (ms.map Prod.fst).Nodup) :
    Reads (value (depth + 1)) ('{' :: (listed gap text ms ++ (last ++ ['}']))) (.object ms) := by
  refine ⟨⟨'{',_,rfl,by decide⟩,fun rest _ => ?_⟩
  have enough := length_le_listed gap fun m member => (each m member).1
  rw [List.cons_append,value_brace,List.append_assoc,List.append_assoc,List.singleton_append]
  have budget : ms.length < (listed gap text ms ++ (last ++ '}' :: rest)).length + 1 := by
    rw [List.length_append]
    omega
  cases ms with
  | nil => exact membersFrom_close ended _ true [] rest
  | cons m ms =>
    obtain ⟨opens,here⟩ := each m List.mem_cons_self
    rw [listed,List.append_assoc,List.append_assoc] at budget ⊢
    rw [membersFrom_first blank (opens.append _),here _ (ends_list ended text ms (by decide) rest)]
    exact membersFrom_list blank ended (fun n later => each n (List.mem_cons_of_mem m later))
      (Nat.lt_of_succ_lt_succ budget) [m] apart rest

end

/-! Scalars. -/

theorem int_word {n : Nat} (word : n < twoTo 64) : ∃ fits, int n = .number (.integer n fits) := by
  have limit : twoTo 64 = 18446744073709551616 := rfl
  have fits : FitsWord n := by
    unfold FitsWord
    omega
  exact ⟨fits,by rw [int,dif_pos fits]⟩

theorem number_reads {i : Int} (fits : FitsWord i) (depth : Nat) :
    Reads (value depth) (Decimal.signedDigits i) (.number (.integer i fits)) := by
  rw [Decimal.signedDigits]
  split
  · next below =>
    refine ⟨⟨'-',_,rfl,by decide⟩,fun rest ends => ?_⟩
    rw [List.cons_append,value_minus,numberBody_negative below fits ends]
    rfl
  · next above =>
    obtain ⟨c,ds,first⟩ := List.exists_cons_of_ne_nil (Segment.digits_ne_nil i.natAbs)
    have digit : Decimal.isDigit c = true :=
      Decimal.isDigit_of_mem_digits (first ▸ List.mem_cons_self)
    have apart {d : Char} (none : Decimal.isDigit d = false) : c ≠ d := by
      rintro rfl
      simp [none] at digit
    have blanks : c ≠ ' ' ∧ c ≠ '\n' ∧ c ≠ '\t' ∧ c ≠ '\r' :=
      ⟨apart rfl,apart rfl,apart rfl,apart rfl⟩
    have closing : c ≠ ']' ∧ c ≠ '}' := ⟨apart rfl,apart rfl⟩
    have other : c ≠ 'n' ∧ c ≠ 't' ∧ c ≠ 'f' ∧ c ≠ '"' ∧ c ≠ '[' ∧ c ≠ '{' ∧ c ≠ '-' :=
      ⟨apart rfl,apart rfl,apart rfl,apart rfl,apart rfl,apart rfl,apart rfl⟩
    have plain : isBlank c = false := by simp [isBlank,blanks]
    refine ⟨⟨c,ds,first,plain,closing⟩,fun rest ends => ?_⟩
    have body := numberBody_positive above fits ends
    rw [first,List.cons_append] at body ⊢
    simp [value,skipBlanks,plain,other,digit,body]

theorem string_reads (s : String) (depth : Nat) :
    Reads (value depth) (quoted s) (.string s) := by
  refine ⟨⟨'"',_,rfl,by decide⟩,fun rest _ => ?_⟩
  obtain ⟨inner,open_,closed⟩ := stringBody_quoted s rest
  rw [open_,value_quote,closed]
  rfl

theorem scalar_reads {v : Json} (flat : v.depth = 0) (whole : v.Whole) (depth : Nat) :
    Reads (value depth) (chars v) v := by
  cases v with
  | null =>
    exact ⟨⟨'n',_,rfl,by decide⟩,fun rest _ => (value_null depth _).trans (by simp [word])⟩
  | bool b =>
    cases b with
    | true =>
      exact ⟨⟨'t',_,rfl,by decide⟩,fun rest _ => (value_true depth _).trans (by simp [word])⟩
    | false =>
      exact ⟨⟨'f',_,rfl,by decide⟩,fun rest _ => (value_false depth _).trans (by simp [word])⟩
  | number n =>
    obtain ⟨i,fits,rfl⟩ := whole
    exact number_reads fits depth
  | string s => exact string_reads s depth
  | array vs => cases flat
  | object ms => cases flat

/-! Layouts. Whatever blanks a layout puts around the parts of a container, a value is read off its
text, if its numbers are whole, no names are repeated in it and no more containers are nested than
the reader follows. -/

/-- What the reader needs of a value in order to read it off its text. -/
structure Readable (depth : Nat) (v : Json) : Prop where
  whole : v.Whole
  distinct : v.Distinct
  within : v.depth ≤ depth

theorem Readable.items {depth : Nat} {vs : List Json} (readable : Readable (depth + 1) (.array vs)) :
    ∀ v ∈ vs, Readable depth v := by
  intro v member
  have smaller := Nat.le_trans (depth_le_itemsDepth member) (Nat.le_of_succ_le_succ readable.within)
  exact ⟨whole_hereditary.items readable.whole v member,
    distinct_hereditary.items readable.distinct v member,smaller⟩

theorem Readable.members {depth : Nat} {ms : List (String × Json)}
    (readable : Readable (depth + 1) (.object ms)) : ∀ m ∈ ms, Readable depth m.2 := by
  intro m member
  have smaller := Nat.le_trans (depth_le_membersDepth member) (Nat.le_of_succ_le_succ readable.within)
  exact ⟨whole_hereditary.members readable.whole m member,
    distinct_hereditary.members readable.distinct m member,smaller⟩

/-- The text of values inside so many containers: scalars stand for themselves, and all that is added
around the parts of a container are its marks and blanks. -/
structure Layout (text : Nat → Json → List Char) : Prop where
  scalar : ∀ level v, v.depth = 0 → text level v = chars v
  array : ∀ level vs, ∃ gap last,
    (∀ c ∈ gap, isBlank c = true) ∧ (∀ c ∈ last, isBlank c = true) ∧
    text level (.array vs) = '[' :: (listed gap (text (level + 1)) vs ++ (last ++ [']']))
  object : ∀ level ms, ∃ gap space last,
    (∀ c ∈ gap, isBlank c = true) ∧ (∀ c ∈ space, isBlank c = true) ∧
    (∀ c ∈ last, isBlank c = true) ∧
    text level (.object ms) = '{' ::
      (listed gap (fun m => quoted m.1 ++ ':' :: (space ++ text (level + 1) m.2)) ms ++
        (last ++ ['}']))

theorem skipBlanks_behind {gap : List Char} (blank : ∀ c ∈ gap, isBlank c = true)
    (cs : List Char) : skipBlanks (gap ++ cs) = skipBlanks cs :=
  List.dropWhile_append_of_pos blank

theorem value_behind {gap : List Char} (blank : ∀ c ∈ gap, isBlank c = true) (depth : Nat)
    (cs : List Char) : value depth (gap ++ cs) = value depth cs := by
  unfold value
  rw [skipBlanks_behind blank]

theorem Layout.reads {text : Nat → Json → List Char} (layout : Layout text) {depth : Nat} {v : Json}
    (readable : Readable depth v) (level : Nat) : Reads (value depth) (text level v) v := by
  induction depth generalizing v level with
  | zero =>
    have flat := Nat.le_zero.mp readable.within
    rw [layout.scalar level v flat]
    exact scalar_reads flat readable.whole 0
  | succ depth below =>
    cases v with
    | array vs =>
      obtain ⟨gap,last,blank,ended,same⟩ := layout.array level vs
      rw [same]
      apply array_reads blank ended
      intro v member
      exact below (readable.items v member) (level + 1)
    | object ms =>
      obtain ⟨gap,space,last,blank,spaced,ended,same⟩ := layout.object level ms
      rw [same]
      apply object_reads blank ended _ readable.distinct.1
      intro m member
      apply member_reads m.1
      intro rest ends
      rw [List.append_assoc,value_behind spaced]
      exact (below (readable.members m member) (level + 1)).2 rest ends
    | _ =>
      rw [layout.scalar level _ rfl]
      exact scalar_reads rfl readable.whole _

/-- A whole text, which may end with blanks. -/
theorem Layout.read {text : Nat → Json → List Char} (layout : Layout text) {v : Json}
    (readable : Readable depthLimit v) (level : Nat) {behind : List Char}
    (blank : ∀ c ∈ behind, isBlank c = true) :
    read (String.ofList (text level v ++ behind)) = .ok v := by
  have ends : Ends behind := fun c first => stops_of_isBlank (blank c (List.mem_of_mem_head? first))
  have all := (layout.reads readable level).2 behind ends
  have nothing := skipBlanks_behind blank []
  rw [List.append_nil] at nothing
  rw [Json.read,String.toList_ofList,document,all]
  simp only [nothing]
  rfl

/-! The text without spaces. -/

theorem itemsChars_listed (vs : List Json) : itemsChars vs = listed [] chars vs := by
  cases vs with
  | nil => rfl
  | cons v vs =>
    induction vs generalizing v with
    | nil => simp [itemsChars,listed]
    | cons w vs ih => simp [itemsChars,listed,ih]

theorem membersChars_listed (ms : List (String × Json)) :
    membersChars ms = listed [] (fun m => quoted m.1 ++ ':' :: ([] ++ chars m.2)) ms := by
  cases ms with
  | nil => rfl
  | cons m ms =>
    induction ms generalizing m with
    | nil => simp [membersChars,listed]
    | cons n ms ih => simp [membersChars,listed,ih]

theorem chars_layout : Layout fun _ => chars where
  scalar _ _ _ := rfl
  array _ vs := ⟨[],[],blank_nil,blank_nil,by simp [chars,itemsChars_listed]⟩
  object _ ms := ⟨[],[],[],blank_nil,blank_nil,blank_nil,by simp [chars,membersChars_listed]⟩

theorem read_compact {v : Json} (whole : v.Whole) (distinct : v.Distinct)
    (within : v.depth ≤ depthLimit) : read v.compact = .ok v := by
  have all := chars_layout.read ⟨whole,distinct,within⟩ 0 blank_nil
  rwa [List.append_nil] at all

/-! The text with a line for every part. -/

theorem newline_blank (step depth : Nat) : ∀ c ∈ newline step depth, isBlank c = true := by
  intro c member
  rcases List.mem_cons.mp member with rfl | space
  · decide
  · rw [List.eq_of_mem_replicate space]
    decide

theorem itemLines_listed (style : Indent) (level : Nat) (vs : List Json) :
    itemLines style level vs =
      listed (newline style.step (level + 1)) (indentedChars style (level + 1)) vs := by
  cases vs with
  | nil => rfl
  | cons v vs =>
    induction vs generalizing v with
    | nil => simp [itemLines,listed]
    | cons w vs ih => simp [itemLines,listed,ih]

theorem memberLines_listed (style : Indent) (level : Nat) (ms : List (String × Json)) :
    memberLines style level ms = listed (newline style.step (level + 1))
      (fun m => quoted m.1 ++ ':' :: ([' '] ++ indentedChars style (level + 1) m.2)) ms := by
  cases ms with
  | nil => rfl
  | cons m ms =>
    induction ms generalizing m with
    | nil => simp [memberLines,listed]
    | cons n ms ih => simp [memberLines,listed,ih]

theorem indentedChars_layout (style : Indent) : Layout (indentedChars style) where
  scalar level v flat := by
    cases v with
    | array vs => cases flat
    | object ms => cases flat
    | _ => simp [indentedChars]
  array level vs := by
    cases vs with
    | nil => exact ⟨[],[],blank_nil,blank_nil,by simp [indentedChars,listed]⟩
    | cons v vs =>
      refine ⟨_,_,newline_blank style.step (level + 1),newline_blank style.step level,?_⟩
      simp [indentedChars,itemLines_listed]
  object level ms := by
    have space : ∀ c ∈ [' '], isBlank c = true := List.forall_mem_singleton.mpr rfl
    cases ms with
    | nil =>
      refine ⟨[],[' '],if style.openEmpty then newline style.step level else [],blank_nil,space,?_,?_⟩
      · split
        · exact newline_blank style.step level
        · exact blank_nil
      · simp [indentedChars,listed]
    | cons m ms =>
      refine ⟨_,_,_,newline_blank style.step (level + 1),space,newline_blank style.step level,?_⟩
      simp [indentedChars,memberLines_listed]

/-- A value is read back from its lines, whatever blanks follow. -/
theorem read_lines (style : Indent) {v : Json} (readable : Readable depthLimit v) {behind : List Char}
    (blank : ∀ c ∈ behind, isBlank c = true) :
    read (v.indented style ++ String.ofList behind) = .ok v := by
  rw [indented,← String.ofList_append]
  exact (indentedChars_layout style).read readable 0 blank

end Json
end ApiReview
