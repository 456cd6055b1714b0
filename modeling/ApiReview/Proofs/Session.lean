import ApiReview.Proofs.Cache
import ApiReview.Rules.Builtin

/-! Sessions: uses of one cache, while the server gives the same answer to the same URL every time.
What is held is then what would be downloaded or built anew, so that no use can tell from what it
is given which uses came before. -/
namespace ApiReview
namespace Remote

/-- The validator for a dialect when none is held: from the URL, or else the bundled one. -/
def supplied (server : Server) (d : Dialect) (url : String) : Except Schema.Error Schema.Validator :=
  match download server url with
  | .ok v => .ok v
  | .error _ => Bundled.validator d

namespace Cache

/-- What is held is what the server and the bundled schemas give now. -/
structure Settled (server : Server) (c : Cache) : Prop where
  downloaded : ∀ d url found, c.held (.remote d url) = some found →
    download server url = .ok found.2
  bundled : c.Sound

section
variable {server : Server} {c c' : Cache} {d : Dialect} {url : String} {v : Schema.Validator}

theorem empty_settled (server : Server) : empty.Settled server :=
  ⟨fun _ _ _ has => (nomatch has),fun _ _ has => (nomatch has)⟩

theorem Settled.same (settled : c.Settled server) (same : Same c c') : c'.Settled server :=
  ⟨fun d url found has => settled.downloaded d url found (same.held _ ▸ has),
    fun d found has => settled.bundled d found (same.held _ ▸ has)⟩

theorem Settled.built_remote (settled : c.Settled server) (had : download server url = .ok v)
    (built : Built c (.remote d url) v c') : c'.Settled server := by
  refine ⟨fun e other found has => ?_,fun e found has => ?_⟩
  · rw [built.held] at has
    split at has
    · next same =>
      cases same
      cases has
      exact had
    · exact settled.downloaded e other found has
  · rw [built.held,if_neg (by simp)] at has
    exact settled.bundled e found has

theorem Settled.built_bundled (settled : c.Settled server) (valid : Bundled.validator d = .ok v)
    (built : Built c (.bundled d) v c') : c'.Settled server := by
  refine ⟨fun e other found has => ?_,fun e found has => ?_⟩
  · rw [built.held,if_neg (by simp)] at has
    exact settled.downloaded e other found has
  · rw [built.held] at has
    split at has
    · next same =>
      cases same
      cases has
      exact valid
    · exact settled.bundled e found has

/-- The bundled schema is the same whether it is held or built. -/
theorem Settled.bundled_step (settled : c.Settled server) (d : Dialect) :
    (c.bundled d).1.Settled server ∧ (c.bundled d).2.map Prod.snd = Bundled.validator d := by
  rcases bundled_cases c d with ⟨found,c',has,done,same⟩ | ⟨v,c',_,valid,done,built⟩
  · rw [done]
    exact ⟨settled.same same,(settled.bundled d found has).symm⟩
  · rw [done]
    exact ⟨settled.built_bundled valid built,valid.symm⟩

/-- A validator is the same whether it is held, downloaded or the bundled one in place of a download
that fails each time. -/
theorem Settled.load_step (settled : c.Settled server) (d : Dialect) (url : String) :
    (c.load server d url).1.Settled server ∧
      (c.load server d url).2.map Loaded.validator = supplied server d url := by
  cases has : c.held (.remote d url) with
  | some found =>
    obtain ⟨c',done,same⟩ := load_kept has server
    have had := settled.downloaded d url found has
    simp only [done,supplied,had]
    exact ⟨settled.same same,rfl⟩
  | none =>
    cases had : download server url with
    | ok v =>
      obtain ⟨c',done,built⟩ := load_built has had
      simp only [done,supplied,had]
      exact ⟨settled.built_remote had built,rfl⟩
    | error reason =>
      obtain ⟨c₁,same,done⟩ := load_failed has had
      obtain ⟨settled₁,given⟩ := (settled.same same).bundled_step d
      simp only [done,supplied,had]
      refine ⟨settled₁,?_⟩
      rw [← given]
      cases (c₁.bundled d).2 <;> rfl

end

end Cache

/-- What a document gives when nothing is held. -/
def freshFindings (server : Server) (urls : SchemaUrls) (document : Json) :
    Except Schema.Error (List Finding) :=
  let d := Dialect.detect document
  (supplied server d (urlFor urls d)).map fun v => (v.findings document).map fun f =>
    { f with description := descriptionFor d f.description }

theorem Cache.Settled.findings_step {server : Server} {c : Cache} (settled : c.Settled server)
    (urls : SchemaUrls) (document : Json) :
    (findings server urls c document).1.Settled server ∧
      (findings server urls c document).2 = freshFindings server urls document := by
  let d := Dialect.detect document
  obtain ⟨settled',given⟩ := settled.load_step d (urlFor urls d)
  refine ⟨settled',?_⟩
  rw [freshFindings,← given]
  change Except.map _ (c.load server d (urlFor urls d)).2 = _
  cases (c.load server d (urlFor urls d)).2 <;> rfl

end Remote

open Remote

/-- The rule on the description is the same rule over every settled cache. -/
theorem schemaRule_settled {server : Server} {c c' : Cache} (settled : c.Settled server)
    (settled' : c'.Settled server) (urls : SchemaUrls) :
    schemaRule server urls c = schemaRule server urls c' := by
  refine congrArg UseOpenApi.rule (funext fun root => ?_)
  rw [(settled.findings_step urls root).2,(settled'.findings_step urls root).2]

namespace Registry

/-- Lints a document with the built-in rules over a cache. The cache is used when the rule on the
description runs. -/
def lintOver (server : Server) (config : Config) (c : Cache) (document : Document) :
    Cache × Except LintError Report :=
  match builtins server c config with
  | .error e => (c,.error e)
  | .ok r =>
    let runs := (r.get? UseOpenApi.id).any (·.enabled)
    (if runs then (findings server config.schemaUrls c document.root).1 else c,.ok (r.lint document))

/-- Lints documents one after the other over one cache. -/
def lintAll (server : Server) (config : Config) (c : Cache) :
    List Document → List (Except LintError Report)
  | [] => []
  | document :: rest =>
    let (c,report) := lintOver server config c document
    report :: lintAll server config c rest

end Registry

namespace Remote

/-- A use of a cache. -/
inductive Use where
  | load (dialect : Dialect) (url : String)
  | check (urls : SchemaUrls) (document : Json)
  | lint (config : Config) (document : Document)
  | bundled (dialect : Dialect)
  | isCached (dialect : Dialect) (url : String)

namespace Cache
variable (server : Server)

/-- The cache after a use. -/
def afterUse (c : Cache) : Use → Cache
  | .load d url => (c.load server d url).1
  | .check urls document => (findings server urls c document).1
  | .lint config document => (Registry.lintOver server config c document).1
  | .bundled d => (c.bundled d).1
  | .isCached d url => (c.look d url).1

/-- The cache after a session that began with an empty one. -/
def session (uses : List Use) : Cache := uses.foldl (afterUse server) empty

end Cache
end Remote

namespace Registry
variable {server : Server} {c c' : Cache}

theorem builtins_settled (settled : c.Settled server) (settled' : c'.Settled server)
    (config : Config) : builtins server c config = builtins server c' config := by
  simp only [builtins,plainBuiltins,schemaRule_settled settled settled']

/-- Linting leaves a settled cache behind, and the report does not depend on which one it was. -/
theorem lintOver_settled (settled : c.Settled server) (config : Config) (document : Document) :
    (lintOver server config c document).1.Settled server ∧
      (lintOver server config c document).2 = (lintOver server config .empty document).2 := by
  have same := builtins_settled settled (Cache.empty_settled server) config
  unfold lintOver
  rw [← same]
  cases builtins server c config with
  | error e => exact ⟨settled,rfl⟩
  | ok r =>
    refine ⟨?_,rfl⟩
    dsimp only
    split
    · exact (settled.findings_step config.schemaUrls document.root).1
    · exact settled

end Registry

namespace Remote.Cache
variable {server : Server} {c : Cache}

theorem Settled.afterUse (settled : c.Settled server) (use : Use) : (c.afterUse server use).Settled server := by
  cases use with
  | load d url => exact (settled.load_step d url).1
  | check urls document => exact (settled.findings_step urls document).1
  | lint config document => exact (Registry.lintOver_settled settled config document).1
  | bundled d => exact (settled.bundled_step d).1
  | isCached d url => exact settled.same (enter_same c (.remote d url))

theorem session_settled (server : Server) (uses : List Use) : (session server uses).Settled server := by
  have all (c : Cache) (settled : c.Settled server) :
      (uses.foldl (Cache.afterUse server) c).Settled server := by
    induction uses generalizing c with
    | nil => exact settled
    | cons use rest ih => exact ih _ (settled.afterUse use)
  exact all empty (empty_settled server)

end Remote.Cache

namespace Registry

theorem lintAll_settled {server : Server} {c : Cache} (settled : c.Settled server) (config : Config)
    (documents : List Document) : lintAll server config c documents =
      documents.map fun document => (lintOver server config .empty document).2 := by
  induction documents generalizing c with
  | nil => rfl
  | cons document rest ih =>
    obtain ⟨settled',report⟩ := lintOver_settled settled config document
    exact congrArg₂ List.cons report (ih settled')

/-- Linting a document over a cache gives the same report whatever session the cache has been
through. When documents are linted one after the other, each report is the one that its document
gets over an empty cache, so neither their order nor a repetition makes a difference. -/
theorem lint_independent_of_session (server : Server) (one two : List Use) (config : Config)
    (document : Document) (documents : List Document) :
    (lintOver server config (.session server one) document).2 =
      (lintOver server config (.session server two) document).2 ∧
    lintAll server config (.session server one) documents =
      documents.map fun d => (lintOver server config .empty d).2 := by
  have first := (lintOver_settled (Cache.session_settled server one) config document).2
  have second := (lintOver_settled (Cache.session_settled server two) config document).2
  exact ⟨first.trans second.symm,
    lintAll_settled (Cache.session_settled server one) config documents⟩

end Registry
end ApiReview
