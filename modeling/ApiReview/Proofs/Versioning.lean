import ApiReview.Rules.MediaTypes
import ApiReview.Proofs.Spelled
import Mathlib.Data.List.TakeWhile

/-! The grammar of media types, as their patterns give it. A text is divided in one way at most,
because the characters that stand between the parts are in none of the classes before them. -/
namespace ApiReview.MediaTypes

/-- The parts of a media type with a version. -/
structure Versioned where
  type : String
  subtype : String
  parameter : String
  version : String

namespace Versioned

def text (v : Versioned) : String :=
  v.type ++ "/" ++ v.subtype ++ ";" ++ v.parameter ++ "=" ++ v.version

/-- A text that is not empty, of characters of one class. -/
def Run (inside : Char → Prop) (s : String) : Prop := s ≠ "" ∧ ∀ c ∈ s.toList, inside c

/-- The parts before the version are as they have to be. -/
structure Fronted (v : Versioned) : Prop where
  type : Run (Text.isWordChar · = true) v.type
  subtype : Run (fun c => c ∈ ['-','+','.'] ∨ Text.isWordChar c = true) v.subtype
  parameter : v.parameter = "v" ∨ v.parameter = "version"

structure Valid (v : Versioned) : Prop extends Fronted v where
  version : Run (Text.isDecimalDigit · = true) v.version

end Versioned

/-! Ranges are gone through as a list, which is quick to compute. -/

theorem ranges_contains (r : Text.Ranges) : r.contains = fun c =>
    r.toList.any fun (low,high) => low ≤ c.toNat && c.toNat ≤ high :=
  funext fun _ => Array.any_toList.symm

theorem isWordChar_eq : Text.isWordChar = Text.wordRanges.contains := rfl

theorem isDecimalDigit_eq : Text.isDecimalDigit = Text.digitRanges.contains := rfl

open Regex Regex.Place

/-- The characters of a subtype, as the pattern names them. -/
def subtypeSet : CharSet :=
  .union (.union (.union (.singleton '-') (.singleton '+')) (.singleton '.')) .unicodeWord

theorem contains_subtypeSet {c : Char} :
    subtypeSet.contains c = true ↔ c ∈ ['-','+','.'] ∨ Text.isWordChar c = true := by
  simp only [subtypeSet,CharSet.contains,Bool.or_eq_true,contains_singleton,List.mem_cons,
    List.not_mem_nil,or_false,or_assoc]
  exact .rfl

theorem slash_outside : Text.isWordChar '/' = false := by
  rw [isWordChar_eq,ranges_contains]
  decide +kernel

theorem semicolon_outside : subtypeSet.contains ';' = false := by
  rw [Bool.eq_false_iff,Ne,contains_subtypeSet,isWordChar_eq,ranges_contains]
  decide +kernel

/-! Runs of a class. -/

section
variable {p : Char → Bool} {run other rest later : List Char} {c d : Char}

theorem dropWhile_run (inside : ∀ c ∈ run, p c = true) (outside : p c = false) :
    (run ++ c :: rest).dropWhile p = c :: rest := by
  rw [List.dropWhile_append_of_pos inside,List.dropWhile_cons_of_neg (by simp [outside])]

/-- A run ends where the first character outside of its class stands. -/
theorem run_unique (one : ∀ c ∈ run, p c = true) (two : ∀ c ∈ other, p c = true)
    (outside : p c = false) (outside' : p d = false)
    (same : run ++ c :: rest = other ++ d :: later) : run = other ∧ rest = later := by
  have behind := congrArg (List.dropWhile p) same
  rw [dropWhile_run one outside,dropWhile_run two outside'] at behind
  rw [behind] at same
  exact ⟨List.append_cancel_right same,(List.cons.inj behind).2⟩

end

namespace Versioned

theorem Run.toList_ne_nil {inside : Char → Prop} {s : String} (run : Run inside s) :
    s.toList ≠ [] := by simpa using run.1

theorem run_ofList {inside : Char → Prop} {cs : List Char} (some : cs ≠ [])
    (all : ∀ c ∈ cs, inside c) : Run inside (String.ofList cs) :=
  ⟨by simpa using some,by simpa using all⟩

section
variable {v w : Versioned}

theorem toList_text (v : Versioned) : v.text.toList = v.type.toList ++ '/' ::
    (v.subtype.toList ++ ';' :: (v.parameter.toList ++ '=' :: v.version.toList)) := by
  simp [text,String.toList_append]

theorem Fronted.subtypeChars (front : v.Fronted) :
    ∀ c ∈ v.subtype.toList, subtypeSet.contains c = true :=
  fun c member => contains_subtypeSet.mpr (front.subtype.2 c member)

/-- Neither parameter is a beginning of the other one with an equals sign behind it. -/
theorem parameter_unique {a b : String} (one : a = "v" ∨ a = "version")
    (two : b = "v" ∨ b = "version") {rest later : List Char}
    (same : a.toList ++ '=' :: rest = b.toList ++ '=' :: later) : a = b ∧ rest = later := by
  rcases one with rfl | rfl <;> rcases two with rfl | rfl <;> simp_all

/-- The parts before the version are found in the text, and the version is what is left. -/
theorem Fronted.unique (one : v.Fronted) (two : w.Fronted) (same : v.text = w.text) : v = w := by
  replace same := congrArg String.toList same
  rw [toList_text,toList_text] at same
  obtain ⟨type,same⟩ := run_unique one.type.2 two.type.2 slash_outside slash_outside same
  obtain ⟨subtype,same⟩ := run_unique one.subtypeChars two.subtypeChars semicolon_outside
    semicolon_outside same
  obtain ⟨parameter,version⟩ := parameter_unique one.parameter two.parameter same
  cases v
  cases w
  simp_all [String.toList_inj]

end

end Versioned

open Versioned

/-! The patterns, part by part. -/

/-- The part that may be left out stands between two that are spelled out. -/
def standardParts : Regex :=
  .seq (spell (.seq (spell (.assertion .textStart) "application/".toList)
    (.repeated (spell (.chars (.singleton 'p')) "roblem+".toList) 0 (some 1) true)) "json".toList)
    (.assertion .textEnd)

/-- The type, the subtype and the parameter, each behind the character that divides it. -/
def versionedParts : Regex :=
  let type := .seq (.assertion .textStart) (.repeated (.chars .unicodeWord) 1 none true)
  let subtype := .seq (spell type ['/']) (.repeated (.chars subtypeSet) 1 none true)
  let parameter := .seq (spell subtype [';'])
    (.alt (.chars (.singleton 'v')) (spell (.chars (.singleton 'v')) "ersion".toList))
  .seq (.seq (spell parameter ['=']) (.repeated (.chars .unicodeDigit) 1 none true))
    (.assertion .textEnd)

theorem standardJson_eq : standardJson = some standardParts := by decide +kernel

theorem versioned_eq : versioned = some versionedParts := by decide +kernel

theorem isStandardJson_iff {s : String} :
    isStandardJson s = true ↔ s = "application/json" ∨ s = "application/problem+json" := by
  rw [isStandardJson,standardJson_eq,Option.any_some,isMatch_iff_of_startsText rfl rfl]
  simp only [standardParts,leads_seq,leads_spell,leads_single,leads_optional,leads_textStart,
    leads_textEnd,exists_assoc,and_assoc,exists_eq_left]
  constructor
  · rintro ⟨_,n,_,m,front,q,rfl | ⟨x,letter,others⟩,json,rfl,last⟩
    · have text := (front.trans json).after
      rw [last] at text
      exact .inl (String.toList_inj.mp text)
    · have text := (front.trans ((letter.trans others).trans json)).after
      rw [last] at text
      exact .inr (String.toList_inj.mp text)
  · rintro (rfl | rfl)
    · have text : "application/json".toList = "application/".toList ++ "json".toList := rfl
      obtain ⟨q,walks,last⟩ := exists_walks_start text
      obtain ⟨m,front,json⟩ := walks_append.mp walks
      exact ⟨q,m,rfl,m,front,q,.inl rfl,json,rfl,last⟩
    · have text : "application/problem+json".toList =
          "application/".toList ++ (['p'] ++ ("roblem+".toList ++ "json".toList)) := rfl
      obtain ⟨q,walks,last⟩ := exists_walks_start text
      simp only [walks_append] at walks
      obtain ⟨n,front,x,letter,m,others,json⟩ := walks
      exact ⟨q,n,rfl,m,front,q,.inr ⟨x,letter,others⟩,json,rfl,last⟩

theorem leads_parameter {p q : Regex.Place} :
    Leads (.alt (.chars (.singleton 'v')) (spell (.chars (.singleton 'v')) "ersion".toList)) p q ↔
      ∃ parameter : String, (parameter = "v" ∨ parameter = "version") ∧
        Walks parameter.toList p q := by
  simp only [leads_alt,leads_single,leads_spell,← walks_append]
  constructor
  · rintro (short | long)
    · exact ⟨"v",.inl rfl,short⟩
    · exact ⟨"version",.inr rfl,long⟩
  · rintro ⟨_,rfl | rfl,walks⟩
    · exact .inl walks
    · exact .inr walks

theorem isVersioned_iff {s : String} :
    isVersioned s = true ↔ ∃ v : Versioned, v.Valid ∧ v.text = s := by
  rw [isVersioned,versioned_eq,Option.any_some,isMatch_iff_of_startsText rfl rfl]
  simp only [versionedParts,leads_seq,leads_parameter,leads_spell,leads_run,leads_textStart,
    leads_textEnd,exists_assoc,and_assoc,exists_eq_left]
  constructor
  -- Part by part, with the place behind each.
  · rintro ⟨_,_,_,_,⟨type,some,word,one⟩,_,slash,_,⟨subtype,some',inside,two⟩,_,semicolon,_,
      ⟨parameter,known,named⟩,q,equals,⟨version,some'',digit,three⟩,rfl,last⟩
    have text := (one.trans (slash.trans (two.trans (semicolon.trans (named.trans
      (equals.trans three)))))).after
    rw [last] at text
    refine ⟨⟨.ofList type,.ofList subtype,parameter,.ofList version⟩,
      ⟨⟨run_ofList some word,run_ofList some' fun c member => contains_subtypeSet.mp (inside c member),
        known⟩,run_ofList some'' digit⟩,String.toList_inj.mp ?_⟩
    rw [toList_text]
    simpa [Regex.Place.start] using text.symm
  · rintro ⟨v,valid,rfl⟩
    have text : v.text.toList = v.type.toList ++ (['/'] ++ (v.subtype.toList ++ ([';'] ++
        (v.parameter.toList ++ (['='] ++ v.version.toList))))) := by simp [toList_text]
    obtain ⟨q,walks,last⟩ := exists_walks_start text
    simp only [walks_append] at walks
    obtain ⟨_,one,_,slash,_,two,_,semicolon,_,named,_,equals,three⟩ := walks
    exact ⟨q,_,rfl,_,⟨_,valid.type.toList_ne_nil,valid.type.2,one⟩,_,slash,_,
      ⟨_,valid.subtype.toList_ne_nil,valid.toFronted.subtypeChars,two⟩,_,semicolon,_,
      ⟨_,valid.parameter,named⟩,q,equals,⟨_,valid.version.toList_ne_nil,valid.version.2,three⟩,rfl,last⟩

/-- A version stands in a parameter. -/
theorem parameter_of_isVersioned {s : String} (versioned : isVersioned s = true) :
    ';' ∈ s.toList := by
  obtain ⟨v,_,rfl⟩ := isVersioned_iff.mp versioned
  simp [toList_text]

/-- Media types with a version are the texts of one grammar, whose parts are found in one way; the
standard ones are two texts, neither of them with a version. Digits alone may be appended to a
version. -/
theorem grammar (s : String) :
    (isVersioned s = true ↔ ∃ v : Versioned, v.Valid ∧ v.text = s) ∧
    (∀ v w : Versioned, v.Valid → w.Valid → v.text = s → w.text = s → v = w) ∧
    (isStandardJson s = true ↔ s = "application/json" ∨ s = "application/problem+json") ∧
    ¬ (isStandardJson s = true ∧ isVersioned s = true) ∧
    (isVersioned s = true → ∀ tail : String,
      isVersioned (s ++ tail) = true ↔ ∀ c ∈ tail.toList, Text.isDecimalDigit c = true) := by
  refine ⟨isVersioned_iff,?_,isStandardJson_iff,?_,?_⟩
  · intro v w one two text text'
    exact one.toFronted.unique two.toFronted (text.trans text'.symm)
  · rintro ⟨named,versioned⟩
    have parameter := parameter_of_isVersioned versioned
    rcases isStandardJson_iff.mp named with rfl | rfl
    · exact absurd parameter (by decide)
    · exact absurd parameter (by decide)
  · intro versioned tail
    obtain ⟨v,valid,rfl⟩ := isVersioned_iff.mp versioned
    have longer : v.text ++ tail = ({ v with version := v.version ++ tail } : Versioned).text := by
      simp [text,String.append_assoc]
    have front : ({ v with version := v.version ++ tail } : Versioned).Fronted :=
      ⟨valid.type,valid.subtype,valid.parameter⟩
    constructor
    · intro still
      obtain ⟨w,valid',same⟩ := isVersioned_iff.mp still
      obtain rfl := valid'.toFronted.unique front (same.trans longer)
      intro c member
      exact valid'.version.2 c (by simp [String.toList_append,member])
    · intro digits
      rw [longer]
      refine isVersioned_iff.mpr ⟨_,⟨front,?_,fun c member => ?_⟩,rfl⟩
      · intro empty
        exact valid.version.1 (String.append_eq_empty_iff.mp empty).1
      · rcases List.mem_append.mp (String.toList_append ▸ member) with old | new
        · exact valid.version.2 c old
        · exact digits c new

def Versioned.interface : Versioned := ⟨"application","vnd.api+json","v","12"⟩

theorem interface_valid : Versioned.interface.Valid := by
  have word : "application".toList.all Text.isWordChar = true := by
    rw [isWordChar_eq,ranges_contains]
    decide +kernel
  have inside : ("vnd.api+json".toList.all fun c =>
      ['-','+','.'].contains c || Text.isWordChar c) = true := by
    rw [isWordChar_eq,ranges_contains]
    decide +kernel
  have digit : "12".toList.all Text.isDecimalDigit = true := by
    rw [isDecimalDigit_eq,ranges_contains]
    decide +kernel
  refine ⟨⟨⟨by decide,List.all_eq_true.mp word⟩,⟨by decide,fun c member => ?_⟩,.inl rfl⟩,by decide,
    List.all_eq_true.mp digit⟩
  simpa using List.all_eq_true.mp inside c member

/-- A line feed at the end is none of the digits. -/
theorem grammar_interface : isVersioned "application/vnd.api+json;v=12" = true ∧
    isVersioned ("application/vnd.api+json;v=12" ++ "\n") = false := by
  obtain ⟨accepts,_,_,_,tails⟩ := grammar "application/vnd.api+json;v=12"
  have versioned := accepts.mpr ⟨.interface,interface_valid,rfl⟩
  have lineFeed : Text.isDecimalDigit '\n' = false := by
    rw [isDecimalDigit_eq,ranges_contains]
    decide +kernel
  refine ⟨versioned,Bool.eq_false_iff.mpr fun still => ?_⟩
  have digit := (tails versioned "\n").mp still '\n' (by simp)
  exact absurd (digit.symm.trans lineFeed) nofun

end ApiReview.MediaTypes
