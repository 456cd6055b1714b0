import ApiReview.Proofs.Builtin
import ApiReview.Proofs.Cache

/-! Schemas that cannot be had. Calls may have their turns in any order, with other calls between
their arrival and their turn, and the server may answer otherwise every time. The slots of the bundled
schemas never keep an error, so in all states the bundled schema stands in. -/
namespace ApiReview
namespace Remote.Cache

/-- The states that calls lead to, whichever arrives or has its turn next. -/
inductive Reached : Cache → Prop where
  | empty : Reached .empty
  | arrive {c : Cache} (key : Key) : Reached c → Reached (c.arrive key).1
  | remote {c : Cache} (server : Server) (d : Dialect) (url : String) (seen : UInt64) :
    Reached c →
    Reached (c.proceed (.remote d url) seen Failure.message (download server url)).1
  | bundled {c : Cache} (d : Dialect) (seen : UInt64) : Reached c →
    Reached (c.proceed (.bundled d) seen Schema.Error.message (Bundled.validator d)).1

/-- The slot of a dialect has no error, and what it holds is the bundled validator. -/
structure Calm (c : Cache) : Prop where
  errorless : ∀ d, (c.slot (.bundled d)).lastError = none
  sound : c.Sound

section
variable {ε : Type} {c : Cache} {key : Key}

/-- A turn changes its own slot at most. -/
theorem slot_proceed (seen : UInt64) (shown : ε → String) (build : Except ε Schema.Validator)
    {other : Key} (apart : other ≠ key) :
    (c.proceed key seen shown build).1.slot other = c.slot other := by
  unfold proceed
  dsimp only
  split
  · rfl
  · rfl
  · rw [slot_setSlot,if_neg apart]
    rfl
  · rw [slot_setSlot,if_neg apart]

end

section
variable {c c' : Cache}

theorem Calm.empty : Calm .empty := ⟨fun _ => rfl,fun _ _ has => nomatch has⟩

theorem Calm.arrive (calm : c.Calm) (key : Key) : (c.arrive key).1.Calm :=
  ⟨fun d => (congrArg Slot.lastError (slot_enter c key _)).trans (calm.errorless d),
    fun d found has => calm.sound d found ((enter_same c key).held _ ▸ has)⟩

theorem Calm.remote_turn (calm : c.Calm) (server : Server) (d : Dialect) (url : String)
    (seen : UInt64) :
    (c.proceed (.remote d url) seen Failure.message (download server url)).1.Calm := by
  have same (e : Dialect) : (c.proceed (.remote d url) seen Failure.message
      (download server url)).1.slot (.bundled e) = c.slot (.bundled e) :=
    slot_proceed seen Failure.message (download server url) (by simp)
  refine ⟨fun e => (congrArg Slot.lastError (same e)).trans (calm.errorless e),fun e found has => ?_⟩
  rw [held,same] at has
  exact calm.sound e found has

theorem Calm.filled (calm : c.Calm) {d : Dialect} {v : Schema.Validator}
    (valid : Bundled.validator d = .ok v) (validators : Array Schema.Validator) (number : Nat)
    (failures : UInt64) : Calm (({ c with validators } : Cache).setSlot (.bundled d)
      { failures, validator := some (number,v), lastError := none }) := by
  refine ⟨fun e => ?_,fun e found has => ?_⟩
  · rw [slot_setSlot]
    split
    · rfl
    · exact calm.errorless e
  · rw [held,slot_setSlot] at has
    split at has
    · next same =>
      cases same
      cases has
      exact valid
    · exact calm.sound e found has

/-- A turn at a bundled schema gives its validator: there never is an error to share, and the attempt
does not fail. -/
theorem Calm.bundled_turn (calm : c.Calm) (d : Dialect) (seen : UInt64) :
    let turn := c.proceed (.bundled d) seen Schema.Error.message (Bundled.validator d)
    turn.1.Calm ∧ ∃ found, turn.2.result .earlier = .ok found ∧ Bundled.validator d = .ok found.2 := by
  obtain ⟨v,valid,_⟩ := Bundled.validator_forces d
  cases has : (c.slot (.bundled d)).validator with
  | some found =>
    simp only [proceed,has]
    exact ⟨calm,found,rfl,calm.sound d found has⟩
  | none =>
    simp only [proceed,has,calm.errorless d,ite_self,valid]
    exact ⟨calm.filled valid _ _ _,_,rfl,rfl⟩

theorem Reached.calm (reached : c.Reached) : c.Calm := by
  induction reached with
  | empty => exact .empty
  | arrive key _ ih => exact ih.arrive key
  | remote server d url seen _ ih => exact ih.remote_turn server d url seen
  | bundled d seen _ ih => exact (ih.bundled_turn d seen).1

/-- A load whose turns come late: the one for the URL at one state, having arrived when `seen` attempts
had failed, and the one for the bundled schema, if there is need for it, at another. -/
def loadAcross (server : Server) (d : Dialect) (url : String) (c : Cache) (seen : UInt64) (c' : Cache)
    (seen' : UInt64) : Except Schema.Error Loaded :=
  let turn := (c.proceed (.remote d url) seen Failure.message (download server url)).2
  match turn.result .earlier with
  | .ok (number,v) => .ok ⟨number,v,.remote url,turn.attempted⟩
  | .error reason =>
    let found := (c'.proceed (.bundled d) seen' Schema.Error.message (Bundled.validator d)).2
    (found.result .earlier).map fun (number,v) => ⟨number,v,.bundled reason,turn.attempted⟩

/-- A load that does not have to wait. -/
theorem load_eq_across (server : Server) (c : Cache) (d : Dialect) (url : String) :
    let c₁ := c.arrive (.remote d url)
    let c₂ := c₁.1.proceed (.remote d url) c₁.2 Failure.message (download server url)
    let c₃ := c₂.1.arrive (.bundled d)
    (c.load server d url).2 = loadAcross server d url c₁.1 c₁.2 c₃.1 c₃.2 := by
  dsimp only
  unfold load loadAcross
  dsimp only [obtain]
  generalize (c.arrive (.remote d url)).1.proceed (.remote d url) (c.arrive (.remote d url)).2
    Failure.message (download server url) = turn
  cases turn.2.result .earlier with
  | ok found => rfl
  | error reason => rfl

theorem result_failed {d : Dialect} {url : String} (lacks : c.held (.remote d url) = none)
    {server : Server} {reason : Failure} (failed : download server url = .error reason)
    (seen : UInt64) : ∃ reason',
    (c.proceed (.remote d url) seen Failure.message (download server url)).2.result .earlier =
      .error reason' := by
  rw [held] at lacks
  simp only [proceed,lacks,failed]
  -- the error of the attempt that the call has waited for, or else of its own
  cases (if (c.slot (.remote d url)).failures = seen then none
    else (c.slot (.remote d url)).lastError) with
  | none => exact ⟨_,rfl⟩
  | some earlier => exact ⟨_,rfl⟩

/-- Wherever its turns come, a load has a validator, and if the URL has none it is the bundled one. -/
theorem Calm.load (calm : c'.Calm) (server : Server) (d : Dialect) (url : String) (c : Cache)
    (seen seen' : UInt64) : ∃ l, loadAcross server d url c seen c' seen' = .ok l ∧
      ∀ reason, c.held (.remote d url) = none → download server url = .error reason →
        Bundled.validator d = .ok l.validator := by
  obtain ⟨_,⟨number,v⟩,given,valid⟩ := calm.bundled_turn d seen'
  unfold loadAcross
  dsimp only
  split
  · next found same =>
    refine ⟨_,rfl,fun reason lacks failed => ?_⟩
    obtain ⟨reason',other⟩ := result_failed lacks failed seen
    exact absurd (same.symm.trans other) (by simp)
  · simp only [given]
    exact ⟨_,rfl,fun _ _ _ => valid⟩

/-- Loads that do not have to wait lead to reached states as well. -/
theorem Reached.load_step (reached : c.Reached) (server : Server) (d : Dialect) (url : String) :
    (c.load server d url).1.Reached := by
  have first := (reached.arrive (.remote d url)).remote server d url (c.arrive (.remote d url)).2
  unfold Cache.load
  dsimp only [obtain]
  split
  · exact first
  · exact (first.arrive (.bundled d)).bundled d _

theorem isCached_iff {d : Dialect} {url : String} :
    c.isCached d url = false ↔ c.held (.remote d url) = none := by
  simp [isCached,look,slot_enter,held]

theorem Reached.load (reached : c.Reached) (server : Server) (d : Dialect) (url : String) :
    ∃ l, (c.load server d url).2 = .ok l ∧
      ∀ reason, c.isCached d url = false → download server url = .error reason →
        Bundled.validator d = .ok l.validator := by
  have arrived := ((reached.arrive (.remote d url)).remote server d url
    (c.arrive (.remote d url)).2).arrive (.bundled d)
  obtain ⟨l,done,bundled⟩ := arrived.calm.load server d url (c.arrive (.remote d url)).1
    (c.arrive (.remote d url)).2 _
  refine ⟨l,(load_eq_across server c d url).trans done,fun reason lacks failed => ?_⟩
  exact bundled reason (((enter_same c _).held _).trans (isCached_iff.mp lacks)) failed

end

end Remote.Cache

open Remote

theorem Remote.Cache.Reached.findings {c : Cache} (reached : c.Reached) (server : Server)
    (urls : SchemaUrls) (document : Json) : ∃ v,
    (Remote.findings server urls c document).2 =
      .ok ((v.findings document).map fun f =>
        ⟨"Does not match " ++ (Dialect.detect document).name ++ " schema: " ++ f.description,
          f.pointer⟩) ∧
      ∀ reason, c.isCached (.detect document) (urlFor urls (.detect document)) = false →
        download server (urlFor urls (.detect document)) = .error reason →
        Bundled.validator (.detect document) = .ok v := by
  obtain ⟨l,done,bundled⟩ := reached.load server (.detect document) (urlFor urls (.detect document))
  refine ⟨l.validator,?_,bundled⟩
  change Except.map _ (c.load server (.detect document) (urlFor urls (.detect document))).2 = _
  rw [done]
  rfl

/-- In no state of the cache does the schema check fail, nor does another. -/
theorem Registry.builtins_diagnostics {c : Cache} (reached : c.Reached) {server : Server}
    {config : Config} {r : Registry} (accepted : builtins server c config = .ok r)
    (context : Context) : (r.lintContext context).diagnostics = [] := by
  rw [lintContext_diagnostics,List.filterMap_eq_nil_iff]
  intro d due
  rcases builtins_due accepted due with ⟨entry,_⟩ | ⟨_,_,entry⟩ | ⟨_,_,entry⟩
  · obtain ⟨v,done,_⟩ := reached.findings server config.schemaUrls context.root
    simp only [Due.diagnostic?,Check.run,entry,done]
    rfl
  · simp only [Due.diagnostic?,Check.run,entry]
    rfl
  · simp only [Due.diagnostic?,Check.run,entry]

/-- In all states that calls lead to, whatever the server answers, a load comes to a result and so
does the check of a document against its schema. If the URL has no schema and none is cached, what is
found is what the bundled schema finds. No report of the built-in rules has a diagnostic. The same is
true of a load that has waited for others, before its turn at the URL or at the bundled schema. -/
theorem acquisition_never_fails {c : Cache} (reached : c.Reached) (server : Server)
    (urls : SchemaUrls) (document : Json) :
    (∀ d url, ∃ l, (c.load server d url).2 = .ok l) ∧
    (∃ v, (findings server urls c document).2 =
        .ok ((v.findings document).map fun f =>
          ⟨"Does not match " ++ (Dialect.detect document).name ++ " schema: " ++ f.description,
            f.pointer⟩) ∧
      ∀ reason, c.isCached (.detect document) (urlFor urls (.detect document)) = false →
        download server (urlFor urls (.detect document)) = .error reason →
        Bundled.validator (.detect document) = .ok v) ∧
    (∀ (config : Config) (r : Registry) (context : Context),
      Registry.builtins server c config = .ok r → (r.lintContext context).diagnostics = []) ∧
    ∀ d url (before : Cache) (seen seen' : UInt64), ∃ l,
      Cache.loadAcross server d url before seen c seen' = .ok l ∧
        ∀ reason, before.held (.remote d url) = none → download server url = .error reason →
          Bundled.validator d = .ok l.validator := by
  refine ⟨fun d url => ?_,reached.findings server urls document,?_,?_⟩
  · obtain ⟨l,done,_⟩ := reached.load server d url
    exact ⟨l,done⟩
  · exact fun config r context accepted => Registry.builtins_diagnostics reached accepted context
  · exact fun d url before seen seen' => reached.calm.load server d url before seen seen'

/-- A server that is out of order, and the cache after one try. -/
def busy : Server := fun _ => .answered 503 ""

def triedOnce : Cache :=
  (Cache.empty.obtain (.remote .swagger (defaultUrl .swagger)) Failure.message
    (download busy (defaultUrl .swagger))).1

theorem acquisition_never_fails_busy :
    triedOnce.Reached ∧ triedOnce.isCached .swagger (defaultUrl .swagger) = false ∧
    ∃ v, Bundled.validator .swagger = .ok v ∧
      (findings busy {} triedOnce (.object [("swagger",.string "2.0")])).2 =
        .ok ((v.findings (.object [("swagger",.string "2.0")])).map fun f =>
          ⟨"Does not match swagger schema: " ++ f.description,f.pointer⟩) := by
  have refused : download busy (defaultUrl .swagger) =
      .error (.refused 503 (defaultUrl .swagger)) := rfl
  have reached : triedOnce.Reached :=
    (Cache.Reached.empty.arrive _).remote busy .swagger (defaultUrl .swagger) _
  have lacks : triedOnce.isCached .swagger (defaultUrl .swagger) = false := by
    obtain ⟨c,done,same⟩ := Cache.obtain_failed Failure.message
      (Cache.held_empty (.remote .swagger (defaultUrl .swagger)))
      (.refused 503 (defaultUrl .swagger))
    rw [triedOnce,refused,done,Cache.isCached_iff,same.held]
    rfl
  obtain ⟨_,⟨v,done,bundled⟩,_⟩ := acquisition_never_fails reached busy {}
    (.object [("swagger",.string "2.0")])
  exact ⟨reached,lacks,v,bundled _ lacks refused,done⟩

end ApiReview
