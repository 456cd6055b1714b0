import ApiReview.CommandLine.Request
import ApiReview.Lint.Report.Human
import ApiReview.Lint.Report.Machine
import ApiReview.Rules.Builtin

/-!
A run: the configuration is read first, then the description, and the report decides how the
run ends.
-/
namespace ApiReview.CommandLine

/-- How a run ends. -/
inductive Outcome where
  /-- With a report, and whether a violation in it is grave enough to fail. -/
  | reported (text : String) (isGrave : Bool)
  | failed (e : LintError)

namespace Outcome

def exitCode : Outcome → Nat
  | .reported _ false => 0
  | .reported _ true => 1
  | .failed _ => 2

/-- What is written to the output. -/
def output : Outcome → String
  | .reported text _ => text
  | .failed _ => ""

end Outcome

namespace Arguments

variable {m : Type → Type} [Monad m] (read : String → m (Except FileError ByteArray))

def readConfig (a : Arguments) : m (Except LintError Config) :=
  match a.config with
  | none => pure (.ok {})
  | some path => do
    match Files.decode (← read path) with
    | .ok text => return Config.read path text
    | .error .notFound => return .error (.configNotFound path)
    | .error e => return .error (.configFile e)

def readDocument (a : Arguments) : m (Except LintError String) := do
  return (Files.decode (← read a.file)).mapError (.documentFile a.file)

/-- The report on the description that is named. -/
def report (server : Remote.Server) (a : Arguments) : m (Except LintError Report) := do
  match (← a.readConfig read) >>= Registry.builtins server .empty with
  | .error e => return .error e
  | .ok registry => return (← a.readDocument read) >>= registry.lintText

/-- The report in the form that is asked for. -/
def write (color : Bool) (a : Arguments) (r : Report) : String :=
  match a.format with
  | .human => Report.Human.text color r
  | .json => Report.Machine.text r

def outcome (color : Bool) (a : Arguments) : Except LintError Report → Outcome
  | .error e => .failed e
  | .ok r => .reported (a.write color r) (r.hasAtLeast a.failOn)

def run (server : Remote.Server) (color : Bool) (a : Arguments) : m Outcome := do
  return a.outcome color (← a.report read server)

end Arguments
end ApiReview.CommandLine
