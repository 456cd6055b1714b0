import ApiReview.Proofs.Cache
import ApiReview.Proofs.Download

/-! Histories of a cache. Each answer follows from the calls that were answered before and from
what the server answers now. -/
namespace ApiReview.Remote

/-- A call on a cache, with the server as it is then; a validator is used by its number. -/
inductive Call where
  | load (server : Server) (dialect : Dialect) (url : String)
  | bundled (dialect : Dialect)
  | isCached (dialect : Dialect) (url : String)
  | validate (number : Nat) (document : Json)

/-- Calls that look at what is there. -/
def Call.IsProbe : Call → Prop
  | .load .. | .bundled _ => False
  | .isCached .. | .validate .. => True

inductive Answer where
  | loaded (result : Except Schema.Error Loaded)
  | bundled (result : Except Schema.Error Numbered)
  | cached (result : Bool)
  /-- None if there is no such validator. -/
  | findings (result : Option (List Finding))

/-- The calls so far with their answers. -/
abbrev Log := List (Call × Answer)

namespace Cache

def step (c : Cache) : Call → Cache × Answer
  | .load server d url => let (c,result) := c.load server d url; (c,.loaded result)
  | .bundled d => let (c,result) := c.bundled d; (c,.bundled result)
  | .isCached d url => let (c,result) := c.look d url; (c,.cached result)
  | .validate number document => (c,.findings (c.validators[number]?.map (·.findings document)))

def logFrom (c : Cache) : List Call → Log
  | [] => []
  | call :: rest => (call,(c.step call).2) :: logFrom (c.step call).1 rest

/-- The history of calls on an empty cache. -/
def log (calls : List Call) : Log := logFrom empty calls

end Cache

namespace Log

/-- The validator that an answer gives, and the key that it is kept for. -/
def given? : Call × Answer → Option (Key × Numbered)
  | (.load _ d url,.loaded (.ok l)) => match l.source with
    | .remote _ => some (.remote d url,(l.number,l.validator))
    | .bundled _ => some (.bundled d,(l.number,l.validator))
  | (.bundled d,.bundled (.ok found)) => some (.bundled d,found)
  | _ => none

/-- A validator was given before: from a download, for a key that has a URL, or else the bundled
one of a dialect, on demand or in place of a download. -/
def Gave (log : Log) (key : Key) (found : Numbered) : Prop :=
  ∃ entry ∈ log, given? entry = some (key,found)

/-- What an answer has to be after the calls before it. -/
def Explains (log : Log) : Call → Answer → Prop
  | .load server d url, .loaded (.ok l) =>
    (l.requested = true ↔ ¬ ∃ found, Gave log (.remote d url) found) ∧
    (∀ found, Gave log (.remote d url) found →
      l.source = .remote url ∧ (l.number,l.validator) = found) ∧
    ((¬ ∃ found, Gave log (.remote d url) found) →
      (∀ v, Delivers server url v → l.source = .remote url ∧ l.validator = v ∧
        ∀ key found, Gave log key found → found.1 ≠ l.number) ∧
      ((¬ ∃ v, Delivers server url v) → ∃ reason, Fails server url reason ∧
        l.source = .bundled reason ∧ Bundled.validator d = .ok l.validator))
  | .bundled d, .bundled (.ok found) => Bundled.validator d = .ok found.2
  | .isCached d url, .cached b => b = true ↔ ∃ found, Gave log (.remote d url) found
  | .validate number document, .findings result =>
    ∀ key v, Gave log key (number,v) → result = some (v.findings document)
  | _, _ => False

theorem gave_append {log : Log} {entry : Call × Answer} {key : Key} {found : Numbered} :
    Gave (log ++ [entry]) key found ↔ Gave log key found ∨ given? entry = some (key,found) := by
  simp [Gave,or_and_right,exists_or]

end Log

namespace Cache

/-- A cache holds what the answers so far have given. -/
structure Reflects (c : Cache) (log : Log) : Prop where
  gave : ∀ key found, c.held key = some found ↔ Log.Gave log key found
  numbered : ∀ key found, c.held key = some found → c.validators[found.1]? = some found.2
  sound : c.Sound

section
variable {c c' : Cache} {log : Log} {entry : Call × Answer} {key : Key}

theorem empty_reflects : empty.Reflects [] := by
  refine ⟨fun key found => ?_,fun key found has => ?_,fun d found has => ?_⟩
  · simp [Log.Gave]
  · cases has
  · cases has

theorem Reflects.same (reflects : c.Reflects log) (same : Same c c')
    (known : ∀ key found, Log.given? entry = some (key,found) → c.held key = some found) :
    c'.Reflects (log ++ [entry]) := by
  refine ⟨fun key found => ?_,fun key found has => ?_,fun d found has => ?_⟩
  · rw [same.held,reflects.gave,Log.gave_append]
    exact ⟨.inl,fun either => either.elim id fun new => (reflects.gave key found).mp (known _ _ new)⟩
  · rw [same.validators]
    exact reflects.numbered key found (same.held key ▸ has)
  · exact reflects.sound d found (same.held _ ▸ has)

theorem Reflects.number_lt (reflects : c.Reflects log) {found : Numbered}
    (gave : Log.Gave log key found) : found.1 < c.validators.size := by
  have numbered := reflects.numbered key found ((reflects.gave key found).mpr gave)
  exact (Array.getElem?_eq_some_iff.mp numbered).1

theorem Reflects.built (reflects : c.Reflects log) (lacks : c.held key = none)
    {v : Schema.Validator} (built : Built c key v c')
    (new : Log.given? entry = some (key,(c.validators.size,v)))
    (own : ∀ d, key = .bundled d → Bundled.validator d = .ok v) :
    c'.Reflects (log ++ [entry]) := by
  refine ⟨fun other found => ?_,fun other found has => ?_,fun d found has => ?_⟩
  · rw [built.held,Log.gave_append,new]
    by_cases same : other = key
    · subst same
      have absent : ¬ Log.Gave log other found := by
        rw [← reflects.gave,lacks]
        exact fun impossible => nomatch impossible
      simp [absent]
    · simp [same,reflects.gave,Ne.symm same]
  · rw [built.held] at has
    rw [built.validators]
    split at has
    · cases has
      simp
    · have numbered := reflects.numbered other found has
      have inside := (Array.getElem?_eq_some_iff.mp numbered).1
      rw [Array.getElem?_push,if_neg (Nat.ne_of_lt inside)]
      exact numbered
  · rw [built.held] at has
    split at has
    · next same =>
      cases has
      exact own d same.symm
    · exact reflects.sound d found has

/-- What a call on the bundled schema gives is known or new. -/
theorem Reflects.bundled (reflects : c.Reflects log) (d : Dialect) : ∃ found c',
    c.bundled d = (c',.ok found) ∧ Bundled.validator d = .ok found.2 ∧
      ∀ entry, Log.given? entry = some (.bundled d,found) → c'.Reflects (log ++ [entry]) := by
  rcases bundled_cases c d with ⟨found,c',has,done,same⟩ | ⟨v,c',lacks,valid,done,built⟩
  · refine ⟨found,c',done,reflects.sound d found has,fun entry new => reflects.same same ?_⟩
    rintro key other given
    cases new.symm.trans given
    exact has
  · refine ⟨(c.validators.size,v),c',done,valid,fun entry new => reflects.built lacks built new ?_⟩
    rintro _ ⟨⟩
    exact valid

theorem Reflects.downloaded_iff (reflects : c.Reflects log) {d : Dialect} {url : String} :
    (∃ found, Log.Gave log (.remote d url) found) ↔ (c.held (.remote d url)).isSome = true := by
  simp only [Option.isSome_iff_exists,reflects.gave]

theorem Reflects.load (reflects : c.Reflects log) (server : Server) (d : Dialect) (url : String) :
    Log.Explains log (.load server d url) (c.step (.load server d url)).2 ∧
      (c.step (.load server d url)).1.Reflects
        (log ++ [(.load server d url,(c.step (.load server d url)).2)]) := by
  cases has : c.held (.remote d url) with
  | some found =>
    obtain ⟨c',done,same⟩ := load_kept has server
    have gave := (reflects.gave _ _).mp has
    simp only [step,done]
    refine ⟨⟨?_,fun other earlier => ?_,fun never => absurd ⟨found,gave⟩ never⟩,reflects.same same ?_⟩
    · simp [reflects.downloaded_iff,has]
    · have equal := has.symm.trans ((reflects.gave _ _).mpr earlier)
      exact ⟨rfl,Option.some.inj equal⟩
    · rintro key other given
      cases given
      exact has
  | none =>
    have never : ¬ ∃ found, Log.Gave log (.remote d url) found := by
      simp [reflects.downloaded_iff,has]
    cases had : download server url with
    | ok v =>
      obtain ⟨c',done,built⟩ := load_built has had
      simp only [step,done]
      refine ⟨⟨by simp [never],fun found gave => absurd ⟨found,gave⟩ never,fun _ => ?_⟩,
        reflects.built has built rfl (by simp)⟩
      refine ⟨fun w delivers => ?_,fun nothing => absurd ⟨v,delivers_iff.mpr had⟩ nothing⟩
      obtain rfl := Except.ok.inj (had.symm.trans (delivers_iff.mp delivers))
      exact ⟨rfl,rfl,fun key found gave => Nat.ne_of_lt (reflects.number_lt gave)⟩
    | error reason =>
      obtain ⟨c₁,same,done⟩ := load_failed has had
      have between : c₁.Reflects log :=
        ⟨fun key found => by rw [same.held,reflects.gave],
          fun key found here => same.validators ▸ reflects.numbered key found (same.held key ▸ here),
          fun d found here => reflects.sound d found (same.held _ ▸ here)⟩
      obtain ⟨found,c',second,valid,after⟩ := between.bundled d
      simp only [step,done,second,Except.map]
      refine ⟨⟨by simp [never],fun found gave => absurd ⟨found,gave⟩ never,fun _ => ?_⟩,after _ rfl⟩
      refine ⟨fun w delivers => ?_,fun _ => ⟨reason,fails_iff.mpr had,rfl,valid⟩⟩
      cases had.symm.trans (delivers_iff.mp delivers)

/-- One step: the answer is explained by those before it, and then the cache holds what it gives. -/
theorem Reflects.step (reflects : c.Reflects log) (call : Call) :
    Log.Explains log call (c.step call).2 ∧
      (c.step call).1.Reflects (log ++ [(call,(c.step call).2)]) := by
  cases call with
  | load server d url => exact reflects.load server d url
  | bundled d =>
    obtain ⟨found,c',done,valid,after⟩ := reflects.bundled d
    simp only [Cache.step,done]
    exact ⟨valid,after _ rfl⟩
  | isCached d url =>
    refine ⟨?_,reflects.same (enter_same c _) (by simp [Log.given?])⟩
    simp only [Cache.step,look,slot_enter,Log.Explains,reflects.downloaded_iff]
    rfl
  | validate number document =>
    refine ⟨fun key v gave => ?_,reflects.same (Same.refl c) (by simp [Log.given?])⟩
    rw [reflects.numbered key _ ((reflects.gave key _).mpr gave)]
    rfl

/-- All steps, from a cache that holds what was given before. -/
theorem Reflects.logFrom (reflects : c.Reflects log) (calls : List Call) :
    (∀ i call answer, (c.logFrom calls)[i]? = some (call,answer) →
      Log.Explains (log ++ (c.logFrom calls).take i) call answer) ∧
    ∃ c', Reflects c' (log ++ c.logFrom calls) := by
  induction calls generalizing c log with
  | nil => exact ⟨by simp [Cache.logFrom],c,by simpa [Cache.logFrom] using reflects⟩
  | cons first rest ih =>
    obtain ⟨here,after⟩ := reflects.step first
    obtain ⟨later,c',final⟩ := ih after
    simp only [List.append_assoc,List.singleton_append] at later final
    refine ⟨fun i call answer listed => ?_,c',final⟩
    cases i with
    | zero =>
      cases listed
      simpa using here
    | succ i => exact later i call answer listed

end

/-! Calls that only look leave a cache as it is, but for empty slots. -/

section
variable {c c' : Cache}

theorem probe_same {call : Call} (probe : call.IsProbe) (c : Cache) : Same c (c.step call).1 := by
  cases call with
  | load => cases probe
  | bundled => cases probe
  | isCached d url => exact enter_same c _
  | validate => exact Same.refl c

theorem bundled_same (same : Same c c') (d : Dialect) :
    (c.bundled d).2 = (c'.bundled d).2 ∧ Same (c.bundled d).1 (c'.bundled d).1 := by
  rcases bundled_cases c d with ⟨found,e,has,done,kept⟩ | ⟨v,e,lacks,valid,done,built⟩
  · obtain ⟨e',done',kept'⟩ := obtain_kept Schema.Error.message ((same.held _).trans has)
      (Bundled.validator d)
    have other : c'.bundled d = (e',.ok found) := by simp only [bundled,done',Turn.result]
    rw [done,other]
    exact ⟨rfl,kept.symm.trans (same.trans kept')⟩
  · obtain ⟨e',done',built'⟩ := obtain_built Schema.Error.message ((same.held _).trans lacks) v
    have other : c'.bundled d = (e',.ok (c'.validators.size,v)) := by
      simp only [bundled,valid,done',Turn.result]
    rw [done,other,same.validators]
    exact ⟨rfl,Built.same same built built'⟩

theorem load_same (same : Same c c') (server : Server) (d : Dialect) (url : String) :
    (c.load server d url).2 = (c'.load server d url).2 ∧
      Same (c.load server d url).1 (c'.load server d url).1 := by
  cases has : c.held (.remote d url) with
  | some found =>
    obtain ⟨e,done,kept⟩ := load_kept has server
    obtain ⟨e',done',kept'⟩ := load_kept ((same.held _).trans has) server
    rw [done,done']
    exact ⟨rfl,kept.symm.trans (same.trans kept')⟩
  | none =>
    cases had : download server url with
    | ok v =>
      obtain ⟨e,done,built⟩ := load_built has had
      obtain ⟨e',done',built'⟩ := load_built ((same.held _).trans has) had
      rw [done,done',same.validators]
      exact ⟨rfl,Built.same same built built'⟩
    | error reason =>
      obtain ⟨e,kept,done⟩ := load_failed has had
      obtain ⟨e',kept',done'⟩ := load_failed ((same.held _).trans has) had
      obtain ⟨results,caches⟩ := bundled_same (kept.symm.trans (same.trans kept')) d
      rw [done,done',results]
      exact ⟨rfl,caches⟩

theorem step_same (same : Same c c') (call : Call) :
    (c.step call).2 = (c'.step call).2 ∧ Same (c.step call).1 (c'.step call).1 := by
  cases call with
  | load server d url =>
    obtain ⟨results,caches⟩ := load_same same server d url
    exact ⟨congrArg Answer.loaded results,caches⟩
  | bundled d =>
    obtain ⟨results,caches⟩ := bundled_same same d
    exact ⟨congrArg Answer.bundled results,caches⟩
  | isCached d url =>
    refine ⟨?_,(enter_same c _).symm.trans (same.trans (enter_same c' _))⟩
    have has : (c'.slot (.remote d url)).validator = (c.slot (.remote d url)).validator :=
      same.held (.remote d url)
    simp only [step,look,slot_enter,has]
  | validate number document =>
    exact ⟨by simp only [step,same.validators],same⟩

theorem logFrom_same (same : Same c c') (calls : List Call) :
    c.logFrom calls = c'.logFrom calls := by
  induction calls generalizing c c' with
  | nil => rfl
  | cons first rest ih =>
    obtain ⟨answers,caches⟩ := step_same same first
    rw [logFrom,logFrom,answers,ih caches]

/-- Probes at any place change no answer behind them. -/
theorem logFrom_probes {probes : List Call} (all : ∀ p ∈ probes, p.IsProbe) (c : Cache)
    (after : List Call) :
    c.logFrom (probes ++ after) = c.logFrom probes ++ c.logFrom after := by
  induction probes generalizing c with
  | nil => rfl
  | cons p rest ih =>
    have same := probe_same (all p List.mem_cons_self) c
    rw [List.cons_append,logFrom,logFrom,ih fun q later => all q (List.mem_cons_of_mem p later),
      logFrom_same same after]
    rfl

/-- The cache after calls. -/
def after (c : Cache) (calls : List Call) : Cache := calls.foldl (fun c call => (c.step call).1) c

theorem logFrom_append (c : Cache) (before later : List Call) :
    c.logFrom (before ++ later) = c.logFrom before ++ (c.after before).logFrom later := by
  induction before generalizing c with
  | nil => rfl
  | cons call rest ih => simp [logFrom,after,ih]

theorem logFrom_calls (c : Cache) (calls : List Call) : (c.logFrom calls).map Prod.fst = calls := by
  induction calls generalizing c with
  | nil => rfl
  | cons call rest ih => simp [logFrom,ih]

end

/-- The history of a cache, whatever the calls and whatever the servers answer: every call is
answered as the earlier answers explain, a dialect has one bundled validator throughout, and calls
that only look change no answer of another call. Documents that a schema refers to are had in the
same way as the schema itself. -/
theorem log_explained (calls : List Call) :
    (log calls).map Prod.fst = calls ∧
    (∀ i call answer, (log calls)[i]? = some (call,answer) →
      Log.Explains ((log calls).take i) call answer) ∧
    (∀ server url document, retrieve server url = .ok document ↔ Serves server url document) ∧
    (∀ d a b, Log.Gave (log calls) (.bundled d) a → Log.Gave (log calls) (.bundled d) b → a = b) ∧
    ∀ before after probes, calls = before ++ after → (∀ p ∈ probes, p.IsProbe) →
      ∃ between rest, log calls = log before ++ rest ∧ between.map Prod.fst = probes ∧
        log (before ++ probes ++ after) = log before ++ between ++ rest := by
  obtain ⟨explained,c,reflects⟩ := empty_reflects.logFrom calls
  refine ⟨logFrom_calls empty calls,explained,fun _ _ _ => retrieve_iff,fun d a b one two => ?_,?_⟩
  · have first := (reflects.gave _ _).mpr one
    exact Option.some.inj (first.symm.trans ((reflects.gave _ _).mpr two))
  · rintro before after probes rfl all
    refine ⟨(empty.after before).logFrom probes,(empty.after before).logFrom after,
      logFrom_append empty before after,logFrom_calls _ probes,?_⟩
    rw [log,List.append_assoc,logFrom_append,logFrom_probes all,List.append_assoc]
    rfl

end Cache
end ApiReview.Remote
