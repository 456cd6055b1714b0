import ApiReview.Document.Dialect
import ApiReview.Lint.Severity

/-!
Settings of a run: how long a schema download may take, and what is set for each rule.
-/
namespace ApiReview

/-- One optional URL for each dialect. -/
structure SchemaUrls where
  swagger : Option String := none
  openApi3 : Option String := none
  deriving DecidableEq

namespace SchemaUrls

def get? (u : SchemaUrls) : Dialect → Option String
  | .swagger => u.swagger
  | .openApi3 => u.openApi3

def set (u : SchemaUrls) (d : Dialect) (url : String) : SchemaUrls :=
  match d with
  | .swagger => { u with swagger := some url }
  | .openApi3 => { u with openApi3 := some url }

end SchemaUrls

structure RuleSettings where
  enabled : Bool := true
  severity : Option Severity := none
  schemaUrls : SchemaUrls := {}
  deriving DecidableEq

/-- Settings by rule id, in the order of the ids. -/
structure RuleTable where
  entries : List (String × RuleSettings)
  sorted : (entries.map Prod.fst).Pairwise (· < ·)
  deriving DecidableEq

namespace RuleTable

def empty : RuleTable := ⟨[], .nil⟩

/-- Puts settings in their place, or in the place of those with the same id. -/
def insertEntry (id : String) (s : RuleSettings) :
    List (String × RuleSettings) → List (String × RuleSettings)
  | [] => [(id, s)]
  | (k, v) :: rest =>
    if id < k then (id, s) :: (k, v) :: rest
    else if id = k then (id, s) :: rest
    else (k, v) :: insertEntry id s rest

theorem mem_keys_insertEntry {id x : String} {s : RuleSettings}
    {entries : List (String × RuleSettings)} :
    x ∈ (insertEntry id s entries).map Prod.fst ↔ x = id ∨ x ∈ entries.map Prod.fst := by
  induction entries with
  | nil => simp [insertEntry]
  | cons e rest ih =>
    obtain ⟨k, v⟩ := e
    simp only [insertEntry]
    split
    · simp
    · split
      · next same => subst same; simp
      · simp only [List.map_cons, List.mem_cons, ih]
        constructor
        · rintro (h | h | h) <;> simp [h]
        · rintro (h | h | h) <;> simp [h]

theorem sorted_insertEntry {id : String} {s : RuleSettings}
    {entries : List (String × RuleSettings)}
    (h : (entries.map Prod.fst).Pairwise (· < ·)) :
    ((insertEntry id s entries).map Prod.fst).Pairwise (· < ·) := by
  induction entries with
  | nil => simp [insertEntry]
  | cons e rest ih =>
    obtain ⟨k, v⟩ := e
    simp only [List.map_cons, List.pairwise_cons] at h
    simp only [insertEntry]
    split
    · next less =>
      simp only [List.map_cons, List.pairwise_cons, List.mem_cons]
      refine ⟨?_, h⟩
      rintro x (rfl | hx)
      · exact less
      · exact String.lt_trans less (h.1 x hx)
    · next notLess =>
      split
      · next same => subst same; simpa using h
      · next different =>
        simp only [List.map_cons, List.pairwise_cons]
        refine ⟨fun x hx => ?_, ih h.2⟩
        rcases mem_keys_insertEntry.1 hx with rfl | hx
        · rcases String.le_total k x with le | le
          · rcases Decidable.em (k < x) with lt | nlt
            · exact lt
            · exact absurd (String.le_antisymm (String.not_lt.1 nlt) le) different
          · exact absurd (String.le_antisymm le (String.not_lt.1 notLess)) different
        · exact h.1 x hx

def insert (id : String) (s : RuleSettings) (t : RuleTable) : RuleTable :=
  ⟨insertEntry id s t.entries, sorted_insertEntry t.sorted⟩

def get? (t : RuleTable) (id : String) : Option RuleSettings :=
  (t.entries.find? (·.1 = id)).map (·.2)

end RuleTable

structure Config where
  schemaFetchTimeoutSecs : UInt64 := 10
  rules : RuleTable := .empty
  deriving DecidableEq

end ApiReview
